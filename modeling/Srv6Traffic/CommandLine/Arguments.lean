import Srv6Traffic.CommandLine.Invocation

/-! Reading a command line from left to right. A value follows its setting after `=`, as a separate
argument, or right behind the letter of a short setting. The program leaves this to the library clap, whose version
4.4 documents what is done here: no setting or switch is taken twice, and a separate value starts with a hyphen only
where negative numbers are allowed and it is one. -/
namespace Srv6Traffic.CommandLine

/-- Reasons to stop before there is anything to run; the first one met counts. -/
inductive Stop where
  | usage
  | help
  | version
  deriving DecidableEq

inductive Argument where
  | setting (setting : Setting) (value : Option String)
  | switch (switch : Switch)
  | help
  | version
  | terminator
  | unknown
  deriving DecidableEq

namespace Argument

def ofLong (name : String) (value : Option String) : Argument :=
  match Setting.ofLong? name, Switch.ofLong? name, value with
  | some named, _, _ => .setting named value
  | none, some named, none => .switch named
  | none, none, none =>
    if name = "help" then .help else if name = "version" then .version else .unknown
  | none, _, some _ => .unknown

def ofShort (letter : Char) (rest : List Char) : Argument :=
  match letter, Setting.ofShort? letter with
  | 'h', _ => .help
  | 'V', _ => .version
  | _, some named =>
    .setting named (match rest with
      | [] => none
      | '=' :: value => some (.ofList value)
      | value => some (.ofList value))
  | _, none => .unknown

def ofChars : List Char → Argument
  | ['-', '-'] => .terminator
  | '-' :: '-' :: long =>
    match Text.cut? '=' long with
    | some (name, value) => ofLong (.ofList name) (some (.ofList value))
    | none => ofLong (.ofList long) none
  | '-' :: letter :: rest => ofShort letter rest
  | _ => .unknown

end Argument

def dropDigits (text : List Char) : List Char := text.dropWhile Char.isDigit

/-- Digits, a point with or without digits after it, and an exponent behind an `e` of either case;
only the first digits are needed, and an exponent has some too. -/
def isNumber (text : List Char) : Bool :=
  let tail := match dropDigits text with
    | '.' :: fraction => dropDigits fraction
    | tail => tail
  text.head?.any Char.isDigit && match tail with
    | [] => true
    | mark :: exponent =>
      (mark = 'e' || mark = 'E') && exponent ≠ [] && exponent.all Char.isDigit

/-- Whether a separate argument can be the value of a setting. -/
def Setting.accepts (setting : Setting) (value : String) : Bool :=
  match value.toList with
  | '-' :: c :: rest => setting.takesNegative && isNumber (c :: rest)
  | _ => true

def scan (i : Invocation) : List String → Except Stop Invocation
  | [] => .ok i
  | argument :: rest =>
    match Argument.ofChars argument.toList, rest with
    | .setting setting (some value), rest =>
      match i.assign? setting value with
      | some i => scan i rest
      | none => .error .usage
    | .setting setting none, value :: rest =>
      match setting.accepts value, i.assign? setting value with
      | true, some i => scan i rest
      | _, _ => .error .usage
    | .switch switch, rest =>
      match i.turnOn? switch with
      | some i => scan i rest
      | none => .error .usage
    | .help, _ => .error .help
    | .version, _ => .error .version
    | .terminator, [] => .ok i
    | .setting _ none, [] | .terminator, _ :: _ | .unknown, _ => .error .usage

def parse (arguments : List String) : Except Stop Invocation := scan {} arguments

end Srv6Traffic.CommandLine
