import WidgetBindings.CommandLine.Word

namespace WidgetBindings.CommandLine

/-! The options that a command line gives.

All words are read before any of them takes effect. After that they take effect from left to right,
so that help is shown even when an earlier word was not understood, but not behind an option
without its value.
-/

/-- What a word that starts with an option asks for in the end, behind its switches. -/
inductive Demand
  | complete
  | value (setting : Setting) (text : Text)
  | needsValue (setting : Setting)
deriving DecidableEq, Repr

structure Cluster where
  switches : List Switch
  demand : Demand
deriving DecidableEq, Repr

/-- The letters behind a short switch are short options themselves, and whatever stands behind one
of them that takes a value is that value. -/
def lettersBehind (switch : Switch) : Text → Except UsageError Cluster
  | [] => .error (.ignoredValue switch [])
  | letter :: rest =>
      match spellings.lookup ['-', letter], rest with
      | none, _ => .error (.ignoredValue switch (letter :: rest))
      | some (.valued setting), [] => .ok ⟨[switch], .needsValue setting⟩
      | some (.valued setting), value => .ok ⟨[switch], .value setting value⟩
      | some (.lone last), [] => .ok ⟨[switch, last], .complete⟩
      | some (.lone next), _ => do
          let cluster ← lettersBehind next rest
          pure { cluster with switches := switch :: cluster.switches }

def Opt.cluster : Opt → Attachment → Except UsageError Cluster
  | .valued setting, .none => .ok ⟨[], .needsValue setting⟩
  | .valued setting, .value text => .ok ⟨[], .value setting text⟩
  | .valued setting, .tail text => .ok ⟨[], .value setting text⟩
  | .lone switch, .none => .ok ⟨[switch], .complete⟩
  | .lone switch, .value text => .error (.ignoredValue switch text)
  | .lone switch, .tail text => lettersBehind switch text

/-- What a setting is given: a text, or nothing at all, which two dashes in the word of the option
stand for. -/
abbrev Given := Option Text

def Given.ofText (text : Text) : Given :=
  if text = ("--" : Text) then none else some text

structure Options where
  input : Given
  output : Given
  includeDirs : List Given
  defines : List Given
  lib : Given
  separated : Bool
  listFunctions : Bool
  listWidgets : Bool
  debug : Bool
deriving DecidableEq, Repr

/-- The options given so far, and the words that are none. -/
structure Draft where
  input : Option Given := none
  output : Given := none
  includeDirs : List Given := []
  defines : List Given := []
  lib : Given := some "lv_"
  separated : Bool := false
  listFunctions : Bool := false
  listWidgets : Bool := false
  debug : Bool := false
  strays : List Text := []
deriving DecidableEq, Repr

/-- Why a command line gives no options. -/
inductive Stop
  | help
  | misuse (error : UsageError)
deriving DecidableEq, Repr

namespace Draft

/-- The last value counts, except for the two settings that gather all of theirs. -/
def set (draft : Draft) (value : Given) : Setting → Draft
  | .input => { draft with input := some value }
  | .output => { draft with output := value }
  | .includeDir => { draft with includeDirs := draft.includeDirs ++ [value] }
  | .define => { draft with defines := draft.defines ++ [value] }
  | .lib => { draft with lib := value }

def turnOn (draft : Draft) : Switch → Except Stop Draft
  | .help => .error .help
  | .separated => .ok { draft with separated := true }
  | .listFunctions => .ok { draft with listFunctions := true }
  | .listWidgets => .ok { draft with listWidgets := true }
  | .debug => .ok { draft with debug := true }

def addStray (draft : Draft) (word : Text) : Draft :=
  { draft with strays := draft.strays ++ [word] }

/-- Help comes in the way of everything behind it, and a switch takes effect only once its whole
word has been understood. -/
def take (draft : Draft) : List Word → Except Stop Draft
  | [] => .ok draft
  | .plain text :: rest => (draft.addStray text).take rest
  | .unknown text :: rest => (draft.addStray text).take rest
  | .terminator :: rest => (draft.addStray "--").take rest
  | .option opt attachment :: rest =>
      match opt.cluster attachment with
      | .error error => .error (.misuse error)
      | .ok ⟨switches, .complete⟩ => do
          let switched ← switches.foldlM turnOn draft
          switched.take rest
      | .ok ⟨switches, .value setting text⟩ => do
          let switched ← switches.foldlM turnOn draft
          (switched.set (Given.ofText text) setting).take rest
      | .ok ⟨switches, .needsValue setting⟩ =>
          match rest with
          | .plain text :: later => do
              let switched ← switches.foldlM turnOn draft
              (switched.set (Given.ofText text) setting).take later
          | _ => .error (.misuse (.expectsValue setting))

/-- A missing input is noticed before words that are not options. -/
def finish (draft : Draft) : Except UsageError Options :=
  match draft.input, draft.strays with
  | none, _ => .error (.missing .input)
  | some _, word :: words => .error (.unrecognized (word :: words))
  | some input, [] =>
      .ok
        { input
          output := draft.output
          includeDirs := draft.includeDirs
          defines := draft.defines
          lib := draft.lib
          separated := draft.separated
          listFunctions := draft.listFunctions
          listWidgets := draft.listWidgets
          debug := draft.debug }

end Draft

def parse (arguments : List Text) : Except Stop Options :=
  match readWords arguments with
  | .error error => .error (.misuse error)
  | .ok words =>
      match Draft.take {} words with
      | .error stop => .error stop
      | .ok draft => draft.finish.mapError .misuse

end WidgetBindings.CommandLine
