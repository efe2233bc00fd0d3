import TenantSchema.Text.DecimalDigit
import TenantSchema.Text.Quoted

/-!
# Options of a command line

A command line is a list of options with long names; an option takes one value or none.  A
name may be shortened as long as only one option starts with it, and a value may follow an
equals sign.  A negative number, or an argument with a space in it, is a value and no option.
Of an option that is given several times the last one counts.
-/

namespace TenantSchema

/-- An option that a command knows. -/
structure OptionSpec where
  name : Text
  takesValue : Bool
  isRequired : Bool
  deriving Repr, DecidableEq

/-- Why a command line is refused. -/
inductive OptionError where
  | missing (names : List Text)
  | valueExpected (name : Text)
  | valueIgnored (name : Text) (value : Text)
  | unrecognized (arguments : List Text)
  | ambiguous (argument : Text) (candidates : List Text)
  deriving Repr, DecidableEq

/-- The wording of an error. -/
def OptionError.message : OptionError → String
  | .missing names =>
      "the following arguments are required: " ++
        Text.toOutput (Text.joinWith ", ".toList names)
  | .valueExpected name =>
      "argument " ++ Text.toOutput name ++ ": expected one argument"
  | .valueIgnored name value =>
      "argument " ++ Text.toOutput name ++ ": ignored explicit argument " ++
        Text.quoted value
  | .unrecognized arguments =>
      "unrecognized arguments: " ++ Text.toOutput (Text.joinWith [' '] arguments)
  | .ambiguous argument candidates =>
      "ambiguous option: " ++ Text.toOutput argument ++ " could match " ++
        Text.toOutput (Text.joinWith ", ".toList candidates)

namespace Options

/-- What the name of an option asks for. -/
inductive Request where
  | help
  | option (spec : OptionSpec)
  deriving Repr, DecidableEq

/-- The mark after which nothing is an option. -/
def separator : Text :=
  ['-', '-']

/-- The short name that asks for help. -/
def shortHelp : Text :=
  "-h".toList

/-- The long name that asks for help. -/
def longHelp : Text :=
  "--help".toList

/-- The name of a request in messages. -/
def Request.name : Request → Text
  | .help =>
      shortHelp ++ '/' :: longHelp
  | .option spec =>
      spec.name

/-- All names of a command in order, those that ask for help first. -/
def names (specs : List OptionSpec) : List (Text × Request) :=
  (shortHelp, .help) :: (longHelp, .help) :: specs.map fun spec => (spec.name, .option spec)

/-- What is attached to the name of an option. -/
inductive Attachment where
  | nothing
  /-- A value after an equals sign. -/
  | value (value : Text)
  /-- Characters right after a short name, the first of them at least. -/
  | tail (rest : Text)
  deriving Repr, DecidableEq

/-- The attachment of a value that may be absent. -/
def Attachment.ofValue (value : Option Text) : Attachment :=
  value.elim .nothing .value

/-- The attachment of a value after a full name: after the short one it is a tail. -/
def Attachment.after (name value : Text) : Attachment :=
  if name = shortHelp ∧ value ≠ [] then .tail value else .value value

/-- What an argument is. -/
inductive Argument where
  /-- A value, or something that belongs to no option. -/
  | operand
  /-- The mark after which nothing is an option. -/
  | separator
  /-- An option, and what is attached to its name. -/
  | named (request : Request) (attached : Attachment)
  /-- Something that looks like an option and is none. -/
  | unknown
  deriving Repr, DecidableEq

/-- An argument split at its first equals sign. -/
def splitAttached (argument : Text) : Text × Option Text :=
  match argument.dropWhile (· != '=') with
  | _ :: value =>
      (argument.takeWhile (· != '='), some value)
  | [] =>
      (argument, none)

/-- An option that an argument may stand for. -/
structure Candidate where
  name : Text
  request : Request
  attached : Attachment
  deriving Repr, DecidableEq

/-- The options that an argument may stand for when it is not a full name. -/
def candidates (specs : List OptionSpec) (argument : Text) : List Candidate :=
  match argument with
  | '-' :: '-' :: _ =>
      let (lead, attached) := splitAttached argument
      (names specs).filterMap fun (name, request) =>
        if Text.startsWith lead name then
          some ⟨name, request, .ofValue attached⟩
        else
          none
  | _ =>
      (names specs).filterMap fun (name, request) =>
        if name = argument.take 2 then
          some ⟨name, request, .tail (argument.drop 2)⟩
        else if Text.startsWith argument name then
          some ⟨name, request, .nothing⟩
        else
          none

/-- Whether an argument is a negative number; a single newline may follow it. -/
def isNegativeNumber (argument : Text) : Bool :=
  let isDigit (character : Char) : Bool := (Text.digitValue? character).isSome
  let ends (rest : Text) : Bool := rest == [] || rest == ['\n']
  match argument with
  | '-' :: number =>
      let whole := number.takeWhile isDigit
      match number.dropWhile isDigit with
      | '.' :: fraction =>
          !(fraction.takeWhile isDigit).isEmpty && ends (fraction.dropWhile isDigit)
      | rest =>
          !whole.isEmpty && ends rest
  | _ =>
      false

/-- The request of a full name. -/
def lookup? (specs : List OptionSpec) (name : Text) : Option Request :=
  ((names specs).find? (·.1 == name)).map (·.2)

/-- What an argument is when no separator stands before it. -/
def classify (specs : List OptionSpec) (argument : Text) : Except OptionError Argument :=
  let byPrefix : Except OptionError Argument :=
    match candidates specs argument with
    | [candidate] =>
        .ok (.named candidate.request candidate.attached)
    | [] =>
        if isNegativeNumber argument || argument.elem ' ' then
          .ok .operand
        else
          .ok .unknown
    | several =>
        .error (.ambiguous argument (several.map (·.name)))
  match argument with
  | '-' :: _ :: _ =>
      let (lead, attached) := splitAttached argument
      match lookup? specs argument, lookup? specs lead, attached with
      | some request, _, _ =>
          .ok (.named request .nothing)
      | none, some request, some value =>
          .ok (.named request (.after lead value))
      | none, _, _ =>
          byPrefix
  | _ =>
      .ok .operand

/-- What the arguments are. -/
def classifyAll (specs : List OptionSpec) :
    List Text → Except OptionError (List (Text × Argument))
  | [] =>
      .ok []
  | argument :: rest =>
      if argument = separator then
        .ok ((argument, .separator) :: rest.map (·, .operand))
      else
        match classify specs argument with
        | .error error =>
            .error error
        | .ok kind =>
            match classifyAll specs rest with
            | .error error =>
                .error error
            | .ok others =>
                .ok ((argument, kind) :: others)

/--
What a command line gives: values and switches by option name, the last one first.  The mark
that ends the options is no value: an option that it is attached to is given without one.
-/
structure Given where
  values : List (Text × Option Text)
  switches : List Text
  extras : List Text
  deriving Repr, DecidableEq

/-- Add the value of an option. -/
def Given.withValue (given : Given) (name value : Text) : Given :=
  let value := if value = separator then none else some value
  { given with values := (name, value) :: given.values }

/-- What reading a command line comes to. -/
inductive Reading where
  | help
  | given (given : Given)
  | refused (error : OptionError)
  deriving Repr, DecidableEq

/--
Read what is attached to the short name that asks for help.  The name may be repeated; nothing
else may follow it.
-/
def readShortTail : Text → Reading
  | [] =>
      .help
  | 'h' :: rest =>
      readShortTail rest
  | rest =>
      .refused (.valueIgnored Request.help.name rest)

/-- Read classified arguments, after those that were given before. -/
def readAll (specs : List OptionSpec) (given : Given) : List (Text × Argument) → Reading
  | [] =>
      .given given
  | (argument, .operand) :: rest | (argument, .separator) :: rest |
    (argument, .unknown) :: rest =>
      readAll specs { given with extras := given.extras ++ [argument] } rest
  | (_, .named .help attached) :: _ =>
      match attached with
      | .nothing =>
          .help
      | .value value =>
          .refused (.valueIgnored Request.help.name value)
      | .tail rest =>
          readShortTail rest
  | (_, .named (.option spec) attached) :: rest =>
      if spec.takesValue then
        match attached with
        | .value value | .tail value =>
            readAll specs (given.withValue spec.name value) rest
        | .nothing =>
            match rest with
            | (value, .operand) :: others =>
                readAll specs (given.withValue spec.name value) others
            | _ =>
                .refused (.valueExpected spec.name)
      else
        match attached with
        | .nothing =>
            readAll specs { given with switches := spec.name :: given.switches } rest
        | .value value | .tail value =>
            .refused (.valueIgnored spec.name value)

/-- The required options that were not given. -/
def missing (specs : List OptionSpec) (given : Given) : List Text :=
  (specs.filter fun spec =>
    spec.isRequired && !given.values.any (·.1 == spec.name)).map (·.name)

/-- Read a command line. -/
def read (specs : List OptionSpec) (arguments : List Text) : Reading :=
  match classifyAll specs arguments with
  | .error error =>
      .refused error
  | .ok classified =>
      match readAll specs { values := [], switches := [], extras := [] } classified with
      | .given given =>
          if !(missing specs given).isEmpty then
            .refused (.missing (missing specs given))
          else if !given.extras.isEmpty then
            .refused (.unrecognized given.extras)
          else
            .given given
      | other =>
          other

/-- What was given for an option, if the option was given: a value, or none. -/
def Given.argument? (given : Given) (name : Text) : Option (Option Text) :=
  (given.values.find? (·.1 == name)).map (·.2)

/-- The value of an option. -/
def Given.value? (given : Given) (name : Text) : Option Text :=
  (given.argument? name).join

/-- Whether an option without a value was given. -/
def Given.has (given : Given) (name : Text) : Bool :=
  given.switches.elem name

end Options

end TenantSchema
