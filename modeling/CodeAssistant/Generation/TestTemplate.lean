import CodeAssistant.Text.Blank
import CodeAssistant.Text.Lower
import CodeAssistant.Text.Search

namespace CodeAssistant

/-!
# Test skeletons

When no generator is available, the tests for a piece of code are a skeleton for its language and
framework.  A skeleton is well-formed for the pair but asserts nothing about the code.
-/

/-- The kinds of skeleton. -/
inductive TestTemplate where
  | pytest | unittest | jest | mocha | junit | generic
  deriving DecidableEq, Repr

namespace TestTemplate

/-- The skeleton for a language and a framework, whose names are compared without regard to case.
The framework only matters where a language has two skeletons. -/
def resolve (language framework : String) : TestTemplate :=
  let framework := Text.lower (Text.trim framework)
  match Text.lower (Text.trim language) with
  | "python" => if framework = "pytest" then .pytest else .unittest
  | "javascript" => if framework = "jest" then .jest else .mocha
  | "java" => .junit
  | _ => .generic

/-- The lines of the skeleton.  Only the generic one mentions the language and the framework. -/
def lines (language framework : String) : TestTemplate → List String
  | .pytest => [
    "import pytest",
    "",
    "# Generated tests for the provided code",
    "def test_basic_functionality():",
    "    # TODO: Add specific test cases based on the code",
    "    assert True",
    "",
    "def test_edge_cases():",
    "    # TODO: Add edge case tests",
    "    assert True",
    ""]
  | .unittest => [
    "import unittest",
    "",
    "class TestGeneratedCode(unittest.TestCase):",
    "    def test_basic_functionality(self):",
    "        # TODO: Add specific test cases based on the code",
    "        self.assertTrue(True)",
    "",
    "    def test_edge_cases(self):",
    "        # TODO: Add edge case tests",
    "        self.assertTrue(True)",
    "",
    "if __name__ == '__main__':",
    "    unittest.main()",
    ""]
  | .jest => [
    "const \x7b /* functions from code */ \x7d = require('./code');",
    "",
    "describe('Generated Code Tests', () => \x7b",
    "    test('should handle basic functionality', () => \x7b",
    "        // TODO: Add specific test cases",
    "        expect(true).toBe(true);",
    "    \x7d);",
    "",
    "    test('should handle edge cases', () => \x7b",
    "        // TODO: Add edge case tests",
    "        expect(true).toBe(true);",
    "    \x7d);",
    "\x7d);",
    ""]
  | .mocha => [
    "const assert = require('assert');",
    "",
    "describe('Generated Code Tests', function() \x7b",
    "    it('should handle basic functionality', function() \x7b",
    "        // TODO: Add specific test cases",
    "        assert.strictEqual(true, true);",
    "    \x7d);",
    "",
    "    it('should handle edge cases', function() \x7b",
    "        // TODO: Add edge case tests",
    "        assert.strictEqual(true, true);",
    "    \x7d);",
    "\x7d);",
    ""]
  | .junit => [
    "import org.junit.jupiter.api.Test;",
    "import static org.junit.jupiter.api.Assertions.*;",
    "",
    "public class GeneratedCodeTest \x7b",
    "    @Test",
    "    public void testBasicFunctionality() \x7b",
    "        // TODO: Add specific test cases",
    "        assertTrue(true);",
    "    \x7d",
    "",
    "    @Test",
    "    public void testEdgeCases() \x7b",
    "        // TODO: Add edge case tests",
    "        assertTrue(true);",
    "    \x7d",
    "\x7d",
    ""]
  | .generic => [
    "// Generated unit tests for " ++ language ++ " using " ++ framework,
    "// TODO: Implement specific test cases based on the provided code",
    "",
    ""]

/-- The text of the skeleton. -/
def render (language framework : String) (template : TestTemplate) : String :=
  Text.join "\n" (template.lines language framework)

end TestTemplate

/-- The tests that stand in for generated ones. -/
def fallbackTests (language framework : String) : String :=
  (TestTemplate.resolve language framework).render language framework

end CodeAssistant
