import Courtship.Log.Line
import Courtship.Text.Basic

/-! Filters for log lines: directives that say up to which level the lines of a target are let
through, written as a list with commas between them. -/

namespace Courtship

/-- The least urgent level that is let through; without one, nothing is. -/
abbrev LogLimit := Option LogLevel

namespace LogLimit

/-- By rank, where zero lets nothing through, or by name in any case. No text means errors only. -/
def ofText? (text : String) : Option LogLimit :=
  match readNat? text.toList with
  | some 0 => some none
  | some n => (LogLevel.all.find? fun l => l.rank = n).map some
  | none =>
    let word := text.map Char.toUpper
    if text = "" then some (some .error)
    else if word = "OFF" then some none
    else (LogLevel.all.find? fun l => l.name = word).map some

def lets (limit : LogLimit) (level : LogLevel) : Bool :=
  limit.any fun l => level.rank ≤ l.rank

end LogLimit

inductive Directive where
  /-- For the targets that start with this text. -/
  | target (start : String) (limit : LogLimit)
  /-- For what happens within spans, of which there are none. -/
  | span

namespace Directive

/-- A target may start with any letter; those outside ASCII are not told from other characters. -/
def startsTarget (c : Char) : Bool :=
  c.isAlphanum || c = '-' || c = ':' || c = '_' || 128 ≤ c.toNat

/-- A target and its limit, a target alone, which is let through whole, or a limit for all. -/
def ofWord? (cs : List Char) : Option Directive :=
  let name := String.ofList (cs.takeWhile (· ≠ '='))
  match cs.dropWhile (· ≠ '=') with
  | [] =>
    match LogLimit.ofText? name with
    | some limit => some (target "" limit)
    | none => some (target name (some .trace))
  | [_] => some (target name (some .trace))
  | _ :: limit => (LogLimit.ofText? (String.ofList limit)).map (target name)

def ofText? (text : String) : Option Directive :=
  match trimmed text.toList with
  | [] => none
  | c :: cs =>
    if (c :: cs).contains '[' then if (c :: cs).contains ']' then some span else none
    else if startsTarget c then ofWord? text.toList
    else none

end Directive

structure LogFilter where
  directives : List Directive

namespace LogFilter

def texts (text : String) : List String := (text.splitOn ",").filter fun t => !t.isEmpty

/-- Refuses a text with a fault in one of its directives. -/
def ofText? (text : String) : Option LogFilter :=
  ((texts text).mapM Directive.ofText?).map LogFilter.mk

/-- Leaves out the directives with faults. -/
def ofText (text : String) : LogFilter := ⟨(texts text).filterMap Directive.ofText?⟩

/-- The limits for a target, with the length of the text that it has to start with. -/
def limitsFor (f : LogFilter) (target : String) : List (Nat × LogLimit) :=
  f.directives.filterMap fun
    | .target start limit =>
      if start.toList.isPrefixOf target.toList then some (start.length, limit) else none
    | .span => none

/-- The longest start counts, and of equal ones the last. A filter without directives lets errors
through. -/
def limitFor (f : LogFilter) (target : String) : LogLimit :=
  if f.directives.isEmpty then some .error
  else
    let best := (f.limitsFor target).foldl (fun best l =>
      if best.any fun b => l.1 < b.1 then best else some l) none
    best.bind Prod.snd

def lets (f : LogFilter) (line : LogLine) : Bool := (f.limitFor logTarget).lets line.level

end LogFilter

end Courtship
