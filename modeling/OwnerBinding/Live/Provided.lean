import OwnerBinding.Live.Blueprint

/-!
# Provided classes

The classes that a program has before any of its own are made: those that the language provides,
under their names and with the classes that they inherit from, and the classes that generated
modules are written against.
-/

namespace OwnerBinding

namespace Live

/-- The provided classes that inherit from the root alone. -/
def providedRoots : List String :=
  ["BaseException", "bytearray", "bytes", "classmethod", "complex", "dict", "enumerate", "filter",
    "float", "frozenset", "int", "list", "map", "memoryview", "property", "range", "reversed",
    "set", "slice", "staticmethod", "str", "super", "tuple", "type", "zip"]

/-- The other provided classes, each behind those that it inherits from. -/
def providedHeirs : List (String × List String) :=
  [("bool", ["int"]), ("BaseExceptionGroup", ["BaseException"]), ("Exception", ["BaseException"]),
    ("GeneratorExit", ["BaseException"]), ("KeyboardInterrupt", ["BaseException"]),
    ("SystemExit", ["BaseException"]), ("ArithmeticError", ["Exception"]),
    ("AssertionError", ["Exception"]), ("AttributeError", ["Exception"]),
    ("BufferError", ["Exception"]), ("EOFError", ["Exception"]),
    ("ExceptionGroup", ["BaseExceptionGroup", "Exception"]), ("ImportError", ["Exception"]),
    ("LookupError", ["Exception"]), ("MemoryError", ["Exception"]), ("NameError", ["Exception"]),
    ("OSError", ["Exception"]), ("ReferenceError", ["Exception"]),
    ("RuntimeError", ["Exception"]), ("StopAsyncIteration", ["Exception"]),
    ("StopIteration", ["Exception"]), ("SyntaxError", ["Exception"]),
    ("SystemError", ["Exception"]), ("TypeError", ["Exception"]), ("ValueError", ["Exception"]),
    ("Warning", ["Exception"]), ("FloatingPointError", ["ArithmeticError"]),
    ("OverflowError", ["ArithmeticError"]), ("ZeroDivisionError", ["ArithmeticError"]),
    ("IndexError", ["LookupError"]), ("KeyError", ["LookupError"]),
    ("ModuleNotFoundError", ["ImportError"]), ("BlockingIOError", ["OSError"]),
    ("ChildProcessError", ["OSError"]), ("ConnectionError", ["OSError"]),
    ("BrokenPipeError", ["ConnectionError"]), ("ConnectionAbortedError", ["ConnectionError"]),
    ("ConnectionRefusedError", ["ConnectionError"]),
    ("ConnectionResetError", ["ConnectionError"]), ("FileExistsError", ["OSError"]),
    ("FileNotFoundError", ["OSError"]), ("InterruptedError", ["OSError"]),
    ("IsADirectoryError", ["OSError"]), ("NotADirectoryError", ["OSError"]),
    ("PermissionError", ["OSError"]), ("ProcessLookupError", ["OSError"]),
    ("TimeoutError", ["OSError"]), ("NotImplementedError", ["RuntimeError"]),
    ("RecursionError", ["RuntimeError"]), ("IndentationError", ["SyntaxError"]),
    ("TabError", ["IndentationError"]), ("UnboundLocalError", ["NameError"]),
    ("UnicodeError", ["ValueError"]), ("UnicodeDecodeError", ["UnicodeError"]),
    ("UnicodeEncodeError", ["UnicodeError"]), ("UnicodeTranslateError", ["UnicodeError"]),
    ("BytesWarning", ["Warning"]), ("DeprecationWarning", ["Warning"]),
    ("EncodingWarning", ["Warning"]), ("FutureWarning", ["Warning"]),
    ("ImportWarning", ["Warning"]), ("PendingDeprecationWarning", ["Warning"]),
    ("ResourceWarning", ["Warning"]), ("RuntimeWarning", ["Warning"]),
    ("SyntaxWarning", ["Warning"]), ("UnicodeWarning", ["Warning"]), ("UserWarning", ["Warning"])]

/-- A class of the language, which is not made from a blueprint. -/
def languageClass (t : TypeName) (isProvided : Bool) (parents ancestors : List ClassId) :
    LiveClass where
  toTypeName := t
  isProvided := isProvided
  bases := parents.map (.cls · [])
  parents := parents
  ancestors := ancestors
  attributes := []

/-- The classes with a meaning of their own, in the order of their places. -/
def specialClasses : List LiveClass :=
  [.object,
    languageClass { module := "typing", name := "Any" } false [objectId] [objectId],
    languageClass { module := "builtins", name := "NoneType" } false [objectId] [objectId],
    languageClass { module := "typing", name := "Generic" } false [objectId] [objectId],
    languageClass { module := "typing", name := "Protocol" } false [genericId]
      [genericId, objectId]]

/-- Adds a provided class that inherits from others by their names. -/
def Workshop.provide (workshop : Workshop) (name : String) (parents : List String) : Workshop :=
  let ids := if parents.isEmpty then [objectId] else parents.filterMap workshop.provided?
  let c := languageClass { module := "builtins", name } true ids (workshop.table.ancestorsOf ids)
  { workshop with table := (workshop.table.add c).2 }

def Workshop.language : Workshop :=
  let special : Workshop := { table := { classes := specialClasses }, handles := [] }
  let roots := providedRoots.foldl (fun workshop name => workshop.provide name []) special
  providedHeirs.foldl (fun workshop heir => workshop.provide heir.1 heir.2) roots

/-- An item that makes a class without a body. -/
def plainClass (name : String) (bases : List Expr) : Item := .define name none none bases [] []

/-- The module of the types that generated modules are written against. -/
def contractsModule : String := "bindwire.contracts"

def contractClass (name : String) : Expr := .handle (contractsModule ++ "." ++ name) []

def contractItems : List Item :=
  [plainClass "LayoutInflater" [], plainClass "ViewGroup" [], plainClass "ViewOwner" [],
    plainClass "Fragment" [contractClass "ViewOwner"],
    plainClass "FragmentActivity" [contractClass "ViewOwner"], plainClass "ViewBinding" []]

def failuresModule : String := "bindwire.exceptions"

def failureItems : List Item :=
  let base : Expr := .handle (failuresModule ++ ".BindWireError") []
  plainClass "BindWireError" [.provided "Exception" []] ::
    ["BindingNotFoundError", "MissingOutputDirectoryError", "OwnerTypeConflictError",
      "UnknownDeclarationError", "InvalidDeclarationManifestError",
      "BindingNotFoundAtRuntimeError"].map fun name => plainClass name [base]

end Live

end OwnerBinding
