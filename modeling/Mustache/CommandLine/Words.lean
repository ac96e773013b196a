import Mustache.Number.Numeral
import Mustache.Path

namespace Mustache.CommandLine

/-! The words of a command line. -/

inductive Command where
  | render (template : String) (data output : Option Path) (watch : Bool)
  | check (directory : Option Path)
  | serve (port : Nat) (machine : String) (data : Option Path) (seconds : Nat)
  | version
deriving DecidableEq, Repr

structure Invocation where
  /-- The directory of the workspace, the current one if none is given. -/
  base : Option Path
  settings : Option Path
  command : Command
deriving DecidableEq, Repr

/-- Why the words name no command. -/
inductive Stop where
  | help
  | version
  | misuse
deriving DecidableEq, Repr

/-! ## Options -/

inductive Kind where
  | base
  | settings
  | debug
  | help
  | version
  | data
  | output
  | watch
  | port
  | machine
  | seconds
deriving DecidableEq, Repr

/-- What the word behind an option has to be. -/
inductive Shape where
  | flag
  | path
  | text
  | small
  | large
deriving DecidableEq, Repr

def Shape.admits (shape : Shape) (word : String) : Bool :=
  match shape with
  | flag => false
  | path => !word.isEmpty
  | text => true
  | small =>
    (Number.readInt? word.toList).any fun number => 0 ≤ number && number < (Number.twoTo 16 : Int)
  | large => (Number.readUInt64? word.toList).isSome

structure Choice where
  kind : Kind
  long : String
  short : Option Char
  shape : Shape

def common : List Choice :=
  [⟨.base, "cwd", some 'c', .path⟩, ⟨.settings, "config", none, .path⟩,
    ⟨.debug, "debug", some 'd', .flag⟩, ⟨.help, "help", some 'h', .flag⟩]

inductive Verb where
  | render
  | check
  | serve
  | version
deriving DecidableEq, Repr

def Verb.ofName? (name : String) : Option Verb :=
  if name == "render" || name == "r" then some .render
  else if name == "check" then some .check
  else if name == "serve" || name == "s" then some .serve
  else if name == "version" then some .version
  else none

/-- Choices before and behind the verb. Those of the verb itself come first. -/
def choices : Option Verb → List Choice
  | none => common ++ [⟨.version, "version", some 'V', .flag⟩]
  | some .render =>
    [⟨.data, "data", some 'd', .path⟩, ⟨.output, "output", some 'o', .path⟩,
      ⟨.watch, "watch", some 'w', .flag⟩] ++ common
  | some .serve =>
    [⟨.port, "port", some 'p', .small⟩, ⟨.machine, "ip", some 'i', .text⟩,
      ⟨.data, "data", some 'd', .path⟩, ⟨.seconds, "timeout", none, .large⟩] ++ common
  | some .check | some .version => common

/-- What was read before or behind the verb. -/
structure Words where
  options : List (Kind × String)
  /-- An option that waits for the word behind it. -/
  waiting : Option Choice
  /-- Whether words that start with a hyphen are no options any more. -/
  plain : Bool
  free : List String

def Words.start : Words :=
  ⟨[], none, false, []⟩

def Words.find? (words : Words) (kind : Kind) : Option String :=
  (words.options.find? (·.1 == kind)).map Prod.snd

def Words.path? (words : Words) (kind : Kind) : Option Path :=
  (words.find? kind).map Path.mk

/-- An option may be given once before the verb and once behind it. -/
def Words.set (words : Words) (choice : Choice) (value : String) : Except Stop Words :=
  if (words.find? choice.kind).isSome || !(choice.shape = .flag || choice.shape.admits value) then
    .error .misuse
  else .ok { words with options := words.options ++ [(choice.kind, value)], waiting := none }

def Words.setFlag (words : Words) (choice : Choice) : Except Stop Words :=
  match choice.kind with
  | .help => .error .help
  | .version => .error .version
  | _ => words.set choice ""

/-- An option in full, with or without its value behind an equals sign. A flag has
no value. -/
def Words.addLong (words : Words) (verb : Option Verb) (name : String) (value : Option String) :
    Except Stop Words :=
  match (choices verb).find? (·.long == name) with
  | none => .error .misuse
  | some choice =>
    match value, choice.shape with
    | some _, .flag => .error .misuse
    | some value, _ => words.set choice value
    | none, .flag => words.setFlag choice
    | none, _ => .ok { words with waiting := some choice }

/-- Letters behind one hyphen: flags, and at the end an option that may have its
value right behind it. -/
def Words.addShort (words : Words) (verb : Option Verb) : List Char → Except Stop Words
  | [] => .ok words
  | letter :: rest =>
    match (choices verb).find? (·.short == some letter) with
    | none => .error .misuse
    | some choice =>
      if choice.shape = .flag then do
        let words ← words.setFlag choice
        words.addShort verb rest
      else
        match rest with
        | [] => .ok { words with waiting := some choice }
        | '=' :: value => words.set choice (String.ofList value)
        | value => words.set choice (String.ofList value)

def Words.add (words : Words) (verb : Option Verb) (word : String) : Except Stop Words :=
  if words.plain then .ok { words with free := words.free ++ [word] }
  else
    match words.waiting, word.toList with
    | none, ['-', '-'] => .ok { words with plain := true }
    | none, '-' :: '-' :: option =>
      match Text.cut? '=' option with
      | some (name, value) =>
        words.addLong verb (String.ofList name) (some (String.ofList value))
      | none => words.addLong verb (String.ofList option) none
    | none, '-' :: letter :: rest => words.addShort verb (letter :: rest)
    | none, _ => .ok { words with free := words.free ++ [word] }
    | some _, '-' :: _ :: _ => .error .misuse
    | some choice, _ => words.set choice word

/-- The words before the verb, the verb, and the words behind it. -/
def readVerb (words : Words) : List String → Except Stop (Words × Verb × List String)
  | [] => .error .misuse
  | word :: rest =>
    if words.waiting.isNone && !words.plain && word == "help" then
      match rest with
      | [] => .error .help
      | [name] => .error (if (Verb.ofName? name).isSome || name == "help" then .help else .misuse)
      | _ => .error .misuse
    else
      match if words.waiting.isNone && !words.plain then Verb.ofName? word else none with
      | some verb => .ok (words, verb, rest)
      | none => do
        let words ← words.add none word
        if words.free.isEmpty then readVerb words rest else .error .misuse

/-- The number of words without an option that a verb has. -/
def Verb.arity : Verb → Nat × Nat
  | render => (1, 1)
  | check => (0, 1)
  | serve | version => (0, 0)

def Verb.command (verb : Verb) (words : Words) : Except Stop Command :=
  let data := words.path? .data
  match verb with
  | render =>
    let watch := (words.find? .watch).isSome
    .ok (.render (words.free.headD "") data (words.path? .output) watch)
  | check =>
    if words.free.contains "" then .error .misuse
    else .ok (.check (words.free.head?.map Path.mk))
  | serve =>
    let number (kind : Kind) (standard : Nat) : Nat :=
      let number? := (words.find? kind).bind fun word => Number.readInt? word.toList
      (number?.map Int.toNat).getD standard
    .ok (.serve (number .port 4000) ((words.find? .machine).getD "localhost") data
      (number .seconds 5))
  | version => .ok .version

/-- Read the words behind the name of the program. What is given behind the verb
goes before what is given in front of it. -/
def read (arguments : List String) : Except Stop Invocation := do
  let (before, verb, rest) ← readVerb .start arguments
  let words ← rest.foldlM (fun words word => do
    let words ← words.add (some verb) word
    if verb.arity.2 < words.free.length then .error .misuse else .ok words) Words.start
  if words.waiting.isSome || words.free.length < verb.arity.1 then .error .misuse
  let command ← verb.command words
  let path (kind : Kind) : Option Path := words.path? kind <|> before.path? kind
  return ⟨path .base, path .settings, command⟩

example : (read ["-c", "d", "r", "a", "-dx.json", "--cwd=e"]).toOption =
    some ⟨some ⟨"e"⟩, none, .render "a" (some ⟨"x.json"⟩) none false⟩ := by decide +kernel

example : read ["check", "-d", "-d"] matches .error .misuse := by decide +kernel

end Mustache.CommandLine
