import CampaignDesk.Failure.Basic

/-!
# Words of a call

The words behind the name of a program are options and arguments. An option begins with two dashes,
or with one if it is a single letter; its value follows as the next word or behind an equals sign.
Two dashes alone end the options.

* `Usage`: what can be wrong with a call.
* `Switch`, `Words`: options that are known, and the words of a call sorted out.
* `Words.read?`: sorting out the words of a call.
-/

namespace CampaignDesk

/-- What can be wrong with the words of a call. -/
inductive Usage
  | nothingGiven
  | commandMissing
  | noSuchCommand (name : Text)
  | noSuchOption (name : Text)
  | valueMissing (option : Text)
  | valueUnwanted (option : Text)
  | argumentMissing (name : Text)
  | argumentsLeft (words : List Text)
  | invalidValue (name : Option Text) (reason : Text)
  | refused (f : Failure)

namespace Usage

/-- What is said of it; a call without any words gets no complaint. -/
def message : Usage → Option Text
  | .nothingGiven => none
  | .commandMissing => some "Missing command."
  | .noSuchCommand name => some (("No such command " : Text) ++ name.quoted ++ ("." : Text))
  | .noSuchOption name => some (("No such option " : Text) ++ name.quoted ++ ("." : Text))
  | .valueMissing option =>
    some (("Option " : Text) ++ option.quoted ++ (" requires an argument." : Text))
  | .valueUnwanted option =>
    some (("Option " : Text) ++ option.quoted ++ (" does not take a value." : Text))
  | .argumentMissing name => some (("Missing argument '" : Text) ++ name ++ ("'." : Text))
  | .argumentsLeft words =>
    some ((if words.length = 1 then "Got unexpected extra argument ("
      else "Got unexpected extra arguments (" : Text) ++ Text.join " " words ++ (")" : Text))
  | .invalidValue none reason => some (("Invalid value: " : Text) ++ reason)
  | .invalidValue (some name) reason =>
    some (("Invalid value for '" : Text) ++ name ++ ("': " : Text) ++ reason)
  | .refused f => some f.message

end Usage

/-- An option that is known: its long name, its letter if it has one, and whether it takes a value. -/
structure Switch where
  name : Text
  letter : Option CodePoint
  takesValue : Bool

/-- The options of a call in order, each with its value, and the other words. -/
structure Words where
  options : List (Text × Text)
  arguments : List Text

namespace Words

/-- One more option in front. -/
def withOption (name value : Text) (w : Words) : Words :=
  { w with options := (name, value) :: w.options }

/-- Two dashes. -/
def dashes : Text := "--"

/-- Whether a word begins an option. -/
def isOption (word : Text) : Bool := word.head? = some 0x2D && 1 < word.length

/-- The name in an option, and the value behind its equals sign if it has one. -/
def parted (word : Text) : Text × Option Text :=
  match word.dropWhile (· ≠ 0x3D) with
  | [] => (word, none)
  | _ :: value => (word.takeWhile (· ≠ 0x3D), some value)

/-- The options that letters behind a single dash stand for. -/
def letters? (switches : List Switch) : Text → Except Usage (List (Text × Text))
  | [] => .ok []
  | c :: rest =>
    match switches.find? fun s => s.letter = some c with
    | some s => do return (s.name, []) :: (← letters? switches rest)
    | none => .error (.noSuchOption [0x2D, c])

/-- Sorts out the words of a call. Unless arguments may stand between options, the first of them
ends the options. -/
def read? (switches : List Switch) (mixed : Bool) : List Text → Except Usage Words
  | [] => .ok ⟨[], []⟩
  | word :: rest =>
    if word = dashes then .ok ⟨[], rest⟩
    else if isOption word then
      let (name, attached) := parted word
      match switches.find? fun s => s.name = name with
      | some s =>
        if s.takesValue then
          match attached, rest with
          | some value, rest => do return (← read? switches mixed rest).withOption name value
          | none, value :: rest => do return (← read? switches mixed rest).withOption name value
          | none, [] => .error (.valueMissing name)
        else if attached.isSome then .error (.valueUnwanted name)
        else do return (← read? switches mixed rest).withOption name []
      | none =>
        if dashes.isPrefixOf word then .error (.noSuchOption name)
        else do
          let found ← letters? switches (word.drop 1)
          let w ← read? switches mixed rest
          return { w with options := found ++ w.options }
    else if mixed then do
      let w ← read? switches mixed rest
      return { w with arguments := word :: w.arguments }
    else .ok ⟨[], word :: rest⟩

/-- Whether an option was given. -/
def has (w : Words) (name : Text) : Bool := w.options.any fun o => o.1 = name

/-- The value of an option; of several the last one counts. -/
def value? (w : Words) (name : Text) : Option Text :=
  (w.options.reverse.find? fun o => o.1 = name).map (·.2)

end Words

end CampaignDesk
