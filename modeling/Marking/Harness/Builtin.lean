import Marking.Text.Basic

-- The templates that every harness starts with. In the source text of a template doubled
-- braces are placeholders and braces with percent signs are tags.

namespace Marking.Harness

def rubySource : Text := String.toList <|
  "  def test\x7b\x7b id \x7d\x7d\n" ++
  "    if \x7b\x7b method_name \x7d\x7d(\x7b\x7b input \x7d\x7d) ==\n" ++
  "      \x7b\x7b expected_output \x7d\x7d\n" ++
  "      \x7b\x7b report_sink or \"@@f\" \x7d\x7d.write(\"\x7b\x7b report_pass \x7d\x7d\\n\")\n" ++
  "    else\n" ++
  "      \x7b\x7b report_sink or \"@@f\" \x7d\x7d.write(\"\x7b\x7b report_fail \x7d\x7d\\n\")\n" ++
  "    end\n" ++
  "    assert_equal(\x7b\x7b method_name \x7d\x7d(\x7b\x7b input \x7d\x7d), " ++
  "\x7b\x7b expected_output \x7d\x7d)\n" ++
  "  end\n\n"

def pythonSource : Text := String.toList <|
  "    def test\x7b\x7b id \x7d\x7d(self):\n" ++
  "        if \x7b\x7b class_name \x7d\x7d.\x7b\x7b method_name \x7d\x7d(\x7b\x7b input \x7d\x7d) == " ++
  "\x7b\x7b expected_output \x7d\x7d:\n" ++
  "            \x7b\x7b report_sink or class_name ~ \"Test.f\" \x7d\x7d" ++
  ".write(\"\x7b\x7b report_pass \x7d\x7d\\n\")\n" ++
  "        else:\n" ++
  "            \x7b\x7b report_sink or class_name ~ \"Test.f\" \x7d\x7d" ++
  ".write(\"\x7b\x7b report_fail \x7d\x7d\\n\")\n" ++
  "        self.assertEqual(\x7b\x7b class_name \x7d\x7d.\x7b\x7b method_name \x7d\x7d" ++
  "(\x7b\x7b input \x7d\x7d),\x7b\x7b expected_output \x7d\x7d)\n\n"

def javaSource : Text := String.toList <|
  "    @Test\n" ++
  "    public void test_\x7b\x7b id \x7d\x7d()\n" ++
  "    \x7b\n" ++
  "        assert\x7b% if array_marker %\x7dArray\x7b% endif %\x7dEquals(\n" ++
  "          \"\x7b\x7b negative_feedback \x7d\x7d\",\n" ++
  "          \x7b\x7b expected_output \x7d\x7d,\n" ++
  "          subject.\x7b\x7b method_name \x7d\x7d(\x7b\x7b input \x7d\x7d));\n" ++
  "    \x7d\n"

def builtin : List (Text × Text) := [
  ("Ruby".toList,rubySource),("Python".toList,pythonSource),("Java".toList,javaSource)]

end Marking.Harness
