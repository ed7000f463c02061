import MeteredDownload.Value

/-!
# Terminals

A terminal takes texts to show.  It may refuse one, or accept it and report later how that went; each
accepted text is reported on at most once.  Those who listen are told of every failure that it announces.
It does so of its own accord: inside the call that passes it a text, or while a transfer waits for its body.
-/
set_option autoImplicit false
namespace MeteredDownload

open Numeric

inductive Completion where
  | never
  | atOnce
  | later
  deriving DecidableEq, Repr

inductive Fate where
  | refused (reason : Value)
  | accepted (failure? : Option Failure) (completion : Completion)

inductive TerminalAct where
  /-- It reports on the text for which a report has been due the longest but `i`, and says no more. -/
  | report (i : Nat)
  | alarm (failure : Failure)

inductive Signal where
  | report (failure? : Option Failure)
  | alarm (failure : Failure) (listeners : Nat)

structure TerminalBehaviour where
  fate : Nat → Fate
  delay : Binary64
  attachable : Bool
  detachable : Bool
  /-- What it does while it takes a text, counted from zero. -/
  during : Nat → List TerminalAct := fun _ => []
  meanwhile : Nat → List TerminalAct := fun _ => []

inductive Mark where
  | shown
  | failed
  | refused
  deriving DecidableEq, Repr

structure Written where
  chunk : String
  mark : Mark
  deriving DecidableEq, Repr

/-- A terminal with all that it has been given and all that was heard of it, the number of those who listen,
and the number of blocks that were awaited. -/
structure Terminal where
  behaviour : TerminalBehaviour
  written : Array Written
  signals : Array Signal
  listeners : Nat
  pauses : Nat

namespace TerminalBehaviour

def silent : TerminalBehaviour where
  fate _ := .accepted none .never
  delay := 0
  attachable := false
  detachable := false

def healthy : TerminalBehaviour where
  fate _ := .accepted none .atOnce
  delay := 0
  attachable := true
  detachable := true

end TerminalBehaviour

namespace Terminal

def fresh (behaviour : TerminalBehaviour) : Terminal := ⟨behaviour, #[], #[], 0, 0⟩

def nextFate (t : Terminal) : Fate := t.behaviour.fate t.written.size

def add (chunk : String) (mark : Mark) (t : Terminal) : Terminal :=
  { t with written := t.written.push ⟨chunk, mark⟩ }

def hear (signal : Signal) (t : Terminal) : Terminal := { t with signals := t.signals.push signal }

def attach (t : Terminal) : Terminal := { t with listeners := t.listeners + 1 }

def detach (t : Terminal) : Terminal := { t with listeners := t.listeners - 1 }

end Terminal
end MeteredDownload
