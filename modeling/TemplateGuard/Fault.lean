import TemplateGuard.Lexical.Scanner
import TemplateGuard.Text.Loose

namespace TemplateGuard

/-- The steps of reading a configuration text, each with faults of its own: its characters, its
tokens, the grammar of the tokens, the nodes that they make, and the values of the nodes. -/
inductive ReadingStep where
  | characters
  | tokens
  | grammar
  | nodes
  | values
  deriving DecidableEq, Repr

/-- The broad classes of faults; callers decide by class which ones they report and which they let
through. -/
inductive FaultClass where
  | value
  | key
  | index
  | type
  | attribute
  | overflow
  | recursion
  | missingFile
  | notFolder
  | directory
  | system
  | reading (step : ReadingStep)
  deriving DecidableEq, Repr

/-- One fault, with what its message tells; `type` is the name of a value's type. -/
inductive Fault where
  | missingKey (key : String)
  | notSearchable (type : String)
  | needsBytes
  | notMatched (type : String)
  | notIndexable (type : String)
  | listIndex
  | stringIndex
  | notIterable (type : String)
  | unhashable (type : String)
  | noMember (type member : String)
  | noLength (type : String)
  | notReal (type : String)
  | badReal (shown : String)
  | tooLarge
  | tooWide
  | notSought (type : String)
  | notReplacement (type : String)
  | notOrdered (type : String)
  | notPath (type : String)
  | optionName
  | repeatedOption (owner name : String)
  | unknownOption (name : String)
  | unknownParser (shown : String)
  | noCharacter
  | tooDeep (activity : String)
  | missingFile (path : String)
  | notFolder (path : String)
  | directory (path : String)
  | longName (path : String)
  | outOfRange (e : OutOfRange)
  | unwritable (e : LooseText.Unwritable)
  | unreadable (step : ReadingStep) (message : String)
  | malformed (message : String)
  deriving DecidableEq, Repr

namespace Fault

def faultClass : Fault → FaultClass
  | missingKey _ => .key
  | notSearchable _ => .type
  | needsBytes => .type
  | notMatched _ => .type
  | notIndexable _ => .type
  | listIndex => .type
  | stringIndex => .type
  | notIterable _ => .type
  | unhashable _ => .type
  | noMember .. => .attribute
  | noLength _ => .type
  | notReal _ => .type
  | badReal _ => .value
  | tooLarge => .overflow
  | tooWide => .overflow
  | notSought _ => .type
  | notReplacement _ => .type
  | notOrdered _ => .type
  | notPath _ => .type
  | optionName => .type
  | repeatedOption .. => .type
  | unknownOption _ => .type
  | unknownParser _ => .value
  | noCharacter => .index
  | tooDeep _ => .recursion
  | missingFile _ => .missingFile
  | notFolder _ => .notFolder
  | directory _ => .directory
  | longName _ => .system
  | outOfRange _ => .value
  | unwritable _ => .value
  | unreadable step _ => .reading step
  | malformed _ => .value

def message : Fault → String
  | missingKey k => quoted k
  | notSearchable t => "argument of type '" ++ t ++ "' is not iterable"
  | needsBytes => "a bytes-like object is required, not 'str'"
  | notMatched t => "expected string or bytes-like object, got '" ++ t ++ "'"
  | notIndexable t => "'" ++ t ++ "' object is not subscriptable"
  | listIndex => "list indices must be integers or slices, not str"
  | stringIndex => "string indices must be integers, not 'str'"
  | notIterable t => "'" ++ t ++ "' object is not iterable"
  | unhashable t => "unhashable type: '" ++ t ++ "'"
  | noMember t m => "'" ++ t ++ "' object has no attribute '" ++ m ++ "'"
  | noLength t => "object of type '" ++ t ++ "' has no len()"
  | notReal t => "float() argument must be a string or a real number, not '" ++ t ++ "'"
  | badReal s => "could not convert string to float: " ++ s
  | tooLarge => "int too large to convert to float"
  | tooWide => "Python int too large to convert to C int"
  | notSought t => "'in <string>' requires string as left operand, not " ++ t
  | notReplacement t => "replace() argument 2 must be str, not " ++ t
  | notOrdered t => "'<' not supported between instances of '" ++ t ++ "' and 'int'"
  | notPath t => "expected str, bytes or os.PathLike object, not " ++ t
  | optionName => "keywords must be strings"
  | repeatedOption owner n => owner ++ "() got multiple values for argument '" ++ n ++ "'"
  | unknownOption n =>
    "PrettierFormatter.__init__() got an unexpected keyword argument '" ++ n ++ "'"
  | unknownParser shown => shown ++ " is not a valid ParserKind"
  | noCharacter => "string index out of range"
  | tooDeep activity => "maximum recursion depth exceeded" ++ activity
  | missingFile p => "[Errno 2] No such file or directory: " ++ quoted p
  | notFolder p => "[Errno 20] Not a directory: " ++ quoted p
  | directory p => "[Errno 21] Is a directory: " ++ quoted p
  | longName p => "[Errno 36] File name too long: " ++ quoted p
  | outOfRange e => e.message
  | unwritable e => e.message
  | unreadable _ m => m
  | malformed m => m

end Fault

end TemplateGuard
