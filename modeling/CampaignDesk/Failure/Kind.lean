/-!
# Kinds of failure

The closed hierarchy of failures: those that the machine and the engines raise, and those of the
desk itself. A kind has a printed name and at most one parent; a handler for a kind catches all of
its descendants.

* `Kind.name`, `Kind.ofName?`: the printed name and back.
* `Kind.isA`: descent.
* `Kind.isOrdinary`: failures that a boundary turns into answers, all but the requests to stop.
-/

namespace CampaignDesk

/-- A kind of failure. -/
inductive Kind
  | baseException
  | exception
  | generatorExit
  | keyboardInterrupt
  | systemExit
  | arithmeticError
  | assertionError
  | attributeError
  | bufferError
  | eofError
  | importError
  | lookupError
  | memoryError
  | nameError
  | osError
  | referenceError
  | runtimeError
  | stopAsyncIteration
  | stopIteration
  | syntaxError
  | systemError
  | typeError
  | valueError
  | warning
  | floatingPointError
  | overflowError
  | zeroDivisionError
  | bytesWarning
  | deprecationWarning
  | encodingWarning
  | futureWarning
  | importWarning
  | pendingDeprecationWarning
  | resourceWarning
  | runtimeWarning
  | syntaxWarning
  | unicodeWarning
  | userWarning
  | blockingError
  | childProcessError
  | connectionError
  | fileExistsError
  | fileNotFoundError
  | interruptedError
  | isDirectoryError
  | notDirectoryError
  | permissionError
  | processLookupError
  | timeoutError
  | indentationError
  | indexError
  | keyError
  | moduleNotFoundError
  | notImplementedError
  | recursionError
  | unboundLocalError
  | unicodeError
  | brokenPipeError
  | connectionAbortedError
  | connectionRefusedError
  | connectionResetError
  | tabError
  | unicodeDecodeError
  | unicodeEncodeError
  | unicodeTranslateError
  | jsonDecodeError
  | frozenInstanceError
  | cancelledError
  | invalidStateError
  /-- A failure of the desk itself. -/
  | deskError
  /-- The settings cannot be used. -/
  | settingsError
  /-- A form was refused before anything was written. -/
  | formError
  /-- The form names no mail server configuration. -/
  | serverConfigMissing
  /-- The mail server configuration does not exist. -/
  | serverConfigNotFound
  /-- A field has a value that cannot be used. -/
  | fieldRefused
  /-- A temporary file could not be created or written. -/
  | tempWriteFailed
  /-- The engine reported a failure. -/
  | engineError
  /-- No engine is there to be called. -/
  | engineMissing
deriving DecidableEq

namespace Kind

/-- The printed name of a kind. -/
def name : Kind → String
  | .baseException => "BaseException"
  | .exception => "Exception"
  | .generatorExit => "GeneratorExit"
  | .keyboardInterrupt => "KeyboardInterrupt"
  | .systemExit => "SystemExit"
  | .arithmeticError => "ArithmeticError"
  | .assertionError => "AssertionError"
  | .attributeError => "AttributeError"
  | .bufferError => "BufferError"
  | .eofError => "EOFError"
  | .importError => "ImportError"
  | .lookupError => "LookupError"
  | .memoryError => "MemoryError"
  | .nameError => "NameError"
  | .osError => "OSError"
  | .referenceError => "ReferenceError"
  | .runtimeError => "RuntimeError"
  | .stopAsyncIteration => "StopAsyncIteration"
  | .stopIteration => "StopIteration"
  | .syntaxError => "SyntaxError"
  | .systemError => "SystemError"
  | .typeError => "TypeError"
  | .valueError => "ValueError"
  | .warning => "Warning"
  | .floatingPointError => "FloatingPointError"
  | .overflowError => "OverflowError"
  | .zeroDivisionError => "ZeroDivisionError"
  | .bytesWarning => "BytesWarning"
  | .deprecationWarning => "DeprecationWarning"
  | .encodingWarning => "EncodingWarning"
  | .futureWarning => "FutureWarning"
  | .importWarning => "ImportWarning"
  | .pendingDeprecationWarning => "PendingDeprecationWarning"
  | .resourceWarning => "ResourceWarning"
  | .runtimeWarning => "RuntimeWarning"
  | .syntaxWarning => "SyntaxWarning"
  | .unicodeWarning => "UnicodeWarning"
  | .userWarning => "UserWarning"
  | .blockingError => "BlockingIOError"
  | .childProcessError => "ChildProcessError"
  | .connectionError => "ConnectionError"
  | .fileExistsError => "FileExistsError"
  | .fileNotFoundError => "FileNotFoundError"
  | .interruptedError => "InterruptedError"
  | .isDirectoryError => "IsADirectoryError"
  | .notDirectoryError => "NotADirectoryError"
  | .permissionError => "PermissionError"
  | .processLookupError => "ProcessLookupError"
  | .timeoutError => "TimeoutError"
  | .indentationError => "IndentationError"
  | .indexError => "IndexError"
  | .keyError => "KeyError"
  | .moduleNotFoundError => "ModuleNotFoundError"
  | .notImplementedError => "NotImplementedError"
  | .recursionError => "RecursionError"
  | .unboundLocalError => "UnboundLocalError"
  | .unicodeError => "UnicodeError"
  | .brokenPipeError => "BrokenPipeError"
  | .connectionAbortedError => "ConnectionAbortedError"
  | .connectionRefusedError => "ConnectionRefusedError"
  | .connectionResetError => "ConnectionResetError"
  | .tabError => "TabError"
  | .unicodeDecodeError => "UnicodeDecodeError"
  | .unicodeEncodeError => "UnicodeEncodeError"
  | .unicodeTranslateError => "UnicodeTranslateError"
  | .jsonDecodeError => "JSONDecodeError"
  | .frozenInstanceError => "FrozenInstanceError"
  | .cancelledError => "CancelledError"
  | .invalidStateError => "InvalidStateError"
  | .deskError => "MailgridUIError"
  | .settingsError => "ConfigError"
  | .formError => "RequestValidationError"
  | .serverConfigMissing => "ConfigMissing"
  | .serverConfigNotFound => "ConfigNotFound"
  | .fieldRefused => "InvalidRequestField"
  | .tempWriteFailed => "TempWriteFailed"
  | .engineError => "ExecutionEngineError"
  | .engineMissing => "EngineNotInstalled"

/-- No kind goes without a name. -/
theorem name_ne_empty (k : Kind) : k.name ≠ "" := by cases k <;> decide

/-- The kind that a kind belongs to. -/
def parent? : Kind → Option Kind
  | .baseException => none
  | .exception | .generatorExit | .keyboardInterrupt | .systemExit => some .baseException
  | .arithmeticError | .assertionError | .attributeError | .bufferError | .eofError
    | .importError | .lookupError | .memoryError | .nameError | .osError | .referenceError
    | .runtimeError | .stopAsyncIteration | .stopIteration | .syntaxError | .systemError
    | .typeError | .valueError | .warning | .cancelledError | .invalidStateError =>
    some .exception
  | .floatingPointError | .overflowError | .zeroDivisionError => some .arithmeticError
  | .bytesWarning | .deprecationWarning | .encodingWarning | .futureWarning | .importWarning
    | .pendingDeprecationWarning | .resourceWarning | .runtimeWarning | .syntaxWarning
    | .unicodeWarning | .userWarning => some .warning
  | .blockingError | .childProcessError | .connectionError | .fileExistsError
    | .fileNotFoundError | .interruptedError | .isDirectoryError | .notDirectoryError
    | .permissionError | .processLookupError | .timeoutError => some .osError
  | .indentationError => some .syntaxError
  | .indexError | .keyError => some .lookupError
  | .moduleNotFoundError => some .importError
  | .notImplementedError | .recursionError => some .runtimeError
  | .unboundLocalError => some .nameError
  | .unicodeError | .jsonDecodeError => some .valueError
  | .frozenInstanceError => some .attributeError
  | .brokenPipeError | .connectionAbortedError | .connectionRefusedError | .connectionResetError =>
    some .connectionError
  | .tabError => some .indentationError
  | .unicodeDecodeError | .unicodeEncodeError | .unicodeTranslateError => some .unicodeError
  | .deskError => some .exception
  | .settingsError | .formError | .tempWriteFailed | .engineError => some .deskError
  | .serverConfigMissing | .serverConfigNotFound | .fieldRefused => some .formError
  | .engineMissing => some .engineError

/-- Every kind. -/
def all : List Kind := [
  .baseException, .exception, .generatorExit, .keyboardInterrupt, .systemExit, .arithmeticError,
  .assertionError, .attributeError, .bufferError, .eofError, .importError, .lookupError,
  .memoryError, .nameError, .osError, .referenceError, .runtimeError, .stopAsyncIteration,
  .stopIteration, .syntaxError, .systemError, .typeError, .valueError, .warning,
  .floatingPointError, .overflowError, .zeroDivisionError, .bytesWarning, .deprecationWarning,
  .encodingWarning, .futureWarning, .importWarning, .pendingDeprecationWarning, .resourceWarning,
  .runtimeWarning, .syntaxWarning, .unicodeWarning, .userWarning, .blockingError,
  .childProcessError, .connectionError, .fileExistsError, .fileNotFoundError, .interruptedError,
  .isDirectoryError, .notDirectoryError, .permissionError, .processLookupError, .timeoutError,
  .indentationError, .indexError, .keyError, .moduleNotFoundError, .notImplementedError,
  .recursionError, .unboundLocalError, .unicodeError, .brokenPipeError, .connectionAbortedError,
  .connectionRefusedError, .connectionResetError, .tabError, .unicodeDecodeError,
  .unicodeEncodeError, .unicodeTranslateError, .jsonDecodeError, .frozenInstanceError, .cancelledError,
  .invalidStateError, .deskError, .settingsError, .formError, .serverConfigMissing,
  .serverConfigNotFound, .fieldRefused, .tempWriteFailed, .engineError, .engineMissing]

theorem mem_all (k : Kind) : k ∈ all := by cases k <;> decide

/-- The kind with a printed name, or with one of two older names of operating system errors. -/
def ofName? (name : String) : Option Kind :=
  if name = "IOError" || name = "EnvironmentError" then some .osError
  else all.find? fun k => k.name = name

/-- The ancestors of a kind from its parent on, as far as `depth` steps lead. -/
def ancestorsWithin : (depth : Nat) → Kind → List Kind
  | 0, _ => []
  | depth + 1, k =>
    match k.parent? with
    | none => []
    | some p => p :: ancestorsWithin depth p

/-- The ancestors of a kind, its parent first. No kind lies more than six steps from the root. -/
def ancestors (k : Kind) : List Kind := ancestorsWithin 6 k

/-- Whether a handler for `l` catches failures of kind `k`. -/
def isA (k l : Kind) : Bool := k = l || k.ancestors.contains l

/-- Whether failures of the kind are reported, rather than stop the program. -/
def isOrdinary (k : Kind) : Bool := k.isA .exception

/-- Whether the kind is one of the desk itself. -/
def isDesk (k : Kind) : Bool := k.isA .deskError

end Kind

end CampaignDesk
