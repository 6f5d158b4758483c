import Switchboard.Text.Basic

/-! # Choices that are left to whoever runs the relay

* `Overflow` — what happens when a connection does not keep up;
* `Routing` — who gets the response to a command;
* `Conflict` — what happens when an account's second desktop arrives;
* `Choice.parse` — reading such a choice from its name. -/

namespace Switchboard

/-- What happens when a text does not fit into a connection's outbox. -/
inductive Overflow where
  /-- The connection is closed. -/
  | close
  /-- The text is dropped. -/
  | dropNewest
deriving DecidableEq, Repr

/-- Who gets the response to a command. -/
inductive Routing where
  /-- All mobiles of the account. -/
  | broadcast
  /-- The mobile that sent the command. -/
  | originator
deriving DecidableEq, Repr

/-- What happens when an account's second desktop arrives. -/
inductive Conflict where
  /-- It takes the place of the first. -/
  | replace
  /-- It is turned away. -/
  | reject
deriving DecidableEq, Repr

/-- A choice between named alternatives: the setting that makes it and the names. -/
structure Choice (α : Type) where
  setting : String
  names : List (String × α)

namespace Choice

def alternatives {α : Type} (c : Choice α) : String :=
  String.intercalate " or " (c.names.map fun n => "'" ++ n.1 ++ "'")

/-- The alternative that a text names, in letters of either case and with blanks
around it, or what is wrong with the text. -/
def parse {α : Type} (c : Choice α) (text : String) : Except String α :=
  let name := Text.lowerAscii (Text.trim text)
  match c.names.lookup name with
  | some a => .ok a
  | none => .error (c.setting ++ " must be " ++ c.alternatives ++ ", got '" ++ name ++ "'")

def nameOf {α : Type} [DecidableEq α] (c : Choice α) (a : α) : String :=
  match c.names.find? (·.2 = a) with
  | some n => n.1
  | none => ""

end Choice

def Overflow.choice : Choice Overflow :=
  ⟨"RELAY_OVERFLOW_POLICY", [("close", .close), ("drop_newest", .dropNewest)]⟩

def Routing.choice : Choice Routing :=
  ⟨"RELAY_RESPONSE_ROUTING", [("broadcast", .broadcast), ("originator", .originator)]⟩

def Conflict.choice : Choice Conflict :=
  ⟨"RELAY_DESKTOP_CONFLICT", [("replace", .replace), ("reject", .reject)]⟩

end Switchboard
