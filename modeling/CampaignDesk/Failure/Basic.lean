import CampaignDesk.Failure.Kind
import CampaignDesk.Text.Utf8
import CampaignDesk.Value.Show

/-!
# Failures

A failure has a kind, a message and the chain of the failures that it was raised from.

* `Failure.new`, `Failure.because`: a failure of its own, and one raised from another.
* `Failure.ofArguments`: the failure of a kind with given arguments, worded as its kind words it.
* `Failure.system`: an error of the operating system, with its number and path.
* `Failure.unencodable`, `Failure.undecodable`: text without bytes, and bytes without text.
* `Value.show?`: a value as text, which fails with a number of too many digits.
-/

namespace CampaignDesk

/-- A failure; `causes` lists what it was raised from, the nearest first. For a request to exit
`status` is the status asked for, if it is a number. Every failure has a message: those whose message cannot be
told, because telling it fails in turn, are left out. -/
structure Failure where
  kind : Kind
  message : Text
  causes : List (Kind × Text)
  status : Option Int
deriving DecidableEq

/-- The kinds of operating system errors that paths lead to. -/
inductive SystemError
  | noSuchFile
  | exists
  | notDirectory
  | isDirectory
  | nameTooLong
  | notEmpty
deriving DecidableEq

/-- The number of an operating system error. -/
def SystemError.number : SystemError → Nat
  | .noSuchFile => 2
  | .exists => 17
  | .notDirectory => 20
  | .isDirectory => 21
  | .nameTooLong => 36
  | .notEmpty => 39

/-- The words of an operating system error. -/
def SystemError.message : SystemError → String
  | .noSuchFile => "No such file or directory"
  | .exists => "File exists"
  | .notDirectory => "Not a directory"
  | .isDirectory => "Is a directory"
  | .nameTooLong => "File name too long"
  | .notEmpty => "Directory not empty"

/-- The kind of operating system errors with a number. -/
def systemKind (number : Int) : Kind :=
  if number = 2 then .fileNotFoundError
  else if number = 1 || number = 13 then .permissionError
  else if number = 17 then .fileExistsError
  else if number = 20 then .notDirectoryError
  else if number = 21 then .isDirectoryError
  else if number = 3 then .processLookupError
  else if number = 4 then .interruptedError
  else if number = 10 then .childProcessError
  else if number = 11 || number = 114 || number = 115 then .blockingError
  else if number = 32 || number = 108 then .brokenPipeError
  else if number = 103 then .connectionAbortedError
  else if number = 104 then .connectionResetError
  else if number = 110 then .timeoutError
  else if number = 111 then .connectionRefusedError
  else .osError

namespace Failure

/-- A failure of its own. -/
def new (kind : Kind) (message : Text) : Failure := ⟨kind, message, [], none⟩

/-- The failure raised from another one. -/
def because (f cause : Failure) : Failure :=
  { f with causes := (cause.kind, cause.message) :: cause.causes }

/-- A value of the wrong type. -/
def typeError (message : Text) : Failure := new .typeError message

/-- A value that is out of place. -/
def valueError (message : Text) : Failure := new .valueError message

/-- A value without the property that is asked of it. -/
def noAttribute (v : Value) (asked : String) : Failure :=
  new .attributeError
    (("'" : Text) ++ Text.ofString v.typeName ++ ("' object has no attribute '" : Text) ++
      Text.ofString asked ++ ("'" : Text))

/-- A number that has too many digits to be written out. -/
def tooLong : Failure :=
  valueError
    "Exceeds the limit (4300 digits) for integer string conversion; use sys.set_int_max_str_digits() to increase the limit"

/-- A field that does not exist, given to what `taker` names. -/
def unknownField (taker : String) (name : Key) : Failure :=
  .typeError
    (Text.ofString taker ++ (".__init__() got an unexpected keyword argument " : Text) ++
      name.literal)

/-- An operating system error about a path. -/
def system (e : SystemError) (path : Text) : Failure :=
  new (systemKind e.number)
    (("[Errno " : Text) ++ Text.ofNat e.number ++ ("] " : Text) ++ Text.ofString e.message ++
      (": " : Text) ++ path.quoted)

/-- The words for a code point that has no bytes. -/
def escapedPoint (c : CodePoint) : Text :=
  if c.val < 0x100 then ("\\x" : Text) ++ Text.hex 2 c.val
  else if c.val < 0x10000 then ("\\u" : Text) ++ Text.hex 4 c.val
  else ("\\U" : Text) ++ Text.hex 8 c.val

/-- The places from `first` on, as a message names them. -/
def places (first count : Nat) : Text :=
  if count ≤ 1 then (" in position " : Text) ++ Text.ofNat first
  else ("s in position " : Text) ++ Text.ofNat first ++ ("-" : Text) ++
    Text.ofNat (first + count - 1)

/-- A text that has no bytes because of a run of surrogates. -/
def unencodable (fault : Utf8.EncodeFault) : Failure :=
  let what : Text :=
    if fault.count = 1 then
      (" '" : Text) ++ escapedPoint fault.point ++ ("' in position " : Text) ++ Text.ofNat fault.first
    else places fault.first fault.count
  new .unicodeEncodeError
    (("'utf-8' codec can't encode character" : Text) ++ what ++ (": surrogates not allowed" : Text))

/-- Bytes that are no text. -/
def undecodable (fault : Utf8.DecodeFault) : Failure :=
  let what : Text :=
    if fault.count ≤ 1 then
      (" 0x" : Text) ++ Text.hex 2 fault.byte.toNat ++ (" in position " : Text) ++
        Text.ofNat fault.first
    else places fault.first fault.count
  let why : String := match fault.problem with
    | .startByte => "invalid start byte"
    | .continuation => "invalid continuation byte"
    | .endOfData => "unexpected end of data"
  new .unicodeDecodeError
    (("'utf-8' codec can't decode byte" : Text) ++ what ++ (": " : Text) ++ Text.ofString why)

/-- Arguments as a failure shows them: none as nothing, one as it reads, several as a tuple. -/
def argumentsText : List Value → Text
  | [] => []
  | [v] => v.display
  | args => (Value.tuple args).literal

/-- The words of an operating system error with a number, a text and perhaps one path or two. -/
def systemText (number text path second : Value) : Text :=
  let head := ("[Errno " : Text) ++ number.display ++ ("] " : Text) ++ text.display
  if path.isNull then head
  else
    head ++ (": " : Text) ++ path.literal ++
      (if second.isNull then [] else (" -> " : Text) ++ second.literal)

/-- The words of an operating system error with some arguments: a number, a text, a path, what other
systems say of it, and a second path. -/
def systemArgumentsText : List Value → Text
  | [number, text] => systemText number text .null .null
  | [number, text, path] | [number, text, path, _] => systemText number text path .null
  | [number, text, path, _, second] => systemText number text path second
  | args => argumentsText args

/-- The kind of an operating system error with some arguments: the number tells it apart. -/
def systemArgumentsKind (kind : Kind) (args : List Value) : Kind :=
  match kind, args with
  | .osError, .int n :: _ :: _ => if args.length ≤ 5 then systemKind n else kind
  | kind, _ => kind

/-- A constructor was given the wrong number of arguments. -/
def missingArguments (kind : Kind) (names : List String) : Failure :=
  let quotedNames := names.map fun n => ("'" : Text) ++ Text.ofString n ++ ("'" : Text)
  typeError
    (Text.ofString kind.name ++ (".__init__() missing " : Text) ++ Text.ofNat names.length ++
      (if names.length = 1 then " required positional argument: "
        else " required positional arguments: " : Text) ++
      Text.join " and " quotedNames)

/-- A constructor was given more arguments than it takes. -/
def surplusArguments (kind : Kind) (takes : String) (given : Nat) : Failure :=
  typeError
    (Text.ofString kind.name ++ (".__init__() takes " : Text) ++ Text.ofString takes ++
      (" positional arguments but " : Text) ++ Text.ofNat given ++ (" were given" : Text))

/-- The failure of a kind that takes a fixed number of arguments. -/
def exactly? (kind : Kind) (count : Nat) (args : List Value) : Except Failure Failure :=
  if args.length = count then .ok (new kind (argumentsText args))
  else
    .error (typeError
      (("function takes exactly " : Text) ++ Text.ofNat count ++ (" arguments (" : Text) ++
        Text.ofNat args.length ++ (" given)" : Text)))

/-- The status that a request to exit asks for. -/
def exitStatus : List Value → Option Int
  | [] => some 0
  | [.int n] => some n
  | [.bool b] => some (if b then 1 else 0)
  | [.null] => some 0
  | _ => none

/-- The failure of a kind with the given arguments; giving a kind arguments that it does not take
is a failure of its own. -/
def ofArguments (kind : Kind) (args : List Value) : Except Failure Failure :=
  match kind, args with
  | .serverConfigMissing, [] => .ok (new kind "SMTP config path is required")
  | .serverConfigMissing, [v] => .ok (new kind v.display)
  | .serverConfigMissing, args => .error (surplusArguments kind "from 1 to 2" (args.length + 1))
  | .serverConfigNotFound, [v] => .ok (new kind (("SMTP config not found: " : Text) ++ v.display))
  | .serverConfigNotFound, [] => .error (missingArguments kind ["env_path"])
  | .serverConfigNotFound, args => .error (surplusArguments kind "2" (args.length + 1))
  | .fieldRefused, [field, reason] =>
    .ok (new kind (field.display ++ (" " : Text) ++ reason.display))
  | .fieldRefused, [] => .error (missingArguments kind ["field_name", "reason"])
  | .fieldRefused, [_] => .error (missingArguments kind ["reason"])
  | .fieldRefused, args => .error (surplusArguments kind "3" (args.length + 1))
  | .keyError, [v] => .ok (new kind v.literal)
  | .systemExit, args => .ok { new kind (argumentsText args) with status := exitStatus args }
  | .unicodeDecodeError, args | .unicodeEncodeError, args => exactly? kind 5 args
  | .unicodeTranslateError, args => exactly? kind 4 args
  | kind, args =>
    if kind.isA .osError then
      .ok (new (systemArgumentsKind kind args) (systemArgumentsText args))
    else if kind.isA .syntaxError then .ok (new kind (args.head?.getD .null).display)
    else .ok (new kind (argumentsText args))

/-- The attributes that a failure made from the given arguments carries beside its message. -/
def attributes (kind : Kind) (args : List Value) : Entries :=
  match kind, args with
  | .serverConfigNotFound, [v] => [(.ofString "env_path", v)]
  | .fieldRefused, field :: _ => [(.ofString "field_name", field)]
  | _, _ => []

end Failure

/-- A value as text. -/
def Value.show? (v : Value) : Except Failure Text :=
  if v.isShowable then .ok v.display else .error .tooLong

end CampaignDesk
