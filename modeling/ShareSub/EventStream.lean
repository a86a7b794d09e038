import Mathlib

/-!
# The events of a stream

The reader of `text/event-stream`, byte by byte: a line ends at a carriage return, at a newline or at both, a field `data`
adds to the event, and a blank line dispatches the event if it has data. Only the data of the events is kept.
-/
namespace ShareSub.EventStream

section Reader

structure Reader where
  line : List UInt8
  /-- The last byte was a carriage return; a newline right after it belongs to it. -/
  carriage : Bool
  data : List (List UInt8)
  events : List (List UInt8)
  deriving DecidableEq, Repr

def initial : Reader := ⟨[], false, [], []⟩

/-- The name of the field `data`. -/
def dataName : List UInt8 := [100, 97, 116, 97]

def fieldName (line : List UInt8) : List UInt8 := line.takeWhile fun b => b ≠ 58

/-- What follows the colon, without one leading space. -/
def fieldValue (line : List UInt8) : List UInt8 :=
  let rest := (line.dropWhile fun b => b ≠ 58).tail
  if rest.head? = some 32 then rest.tail else rest

/-- The data of an event. -/
def joined : List (List UInt8) → List UInt8
  | [] => []
  | [d] => d
  | d :: ds => d ++ 10 :: joined ds

/-- The data that a line adds to its event. -/
def lineData (line : List UInt8) : List (List UInt8) := if fieldName line = dataName then [fieldValue line] else []

def Reader.endLine (p : Reader) : Reader :=
  if p.line = [] then
    if p.data = [] then p else { p with data := [], events := p.events ++ [joined p.data] }
  else { p with line := [], data := p.data ++ lineData p.line }

def Reader.read (p : Reader) (b : UInt8) : Reader :=
  if b = 10 then if p.carriage then { p with carriage := false } else p.endLine
  else if b = 13 then { p.endLine with carriage := true }
  else { p with line := p.line ++ [b], carriage := false }

def Reader.run (p : Reader) (x : List UInt8) : Reader := x.foldl Reader.read p

/-- The events that a text dispatches. -/
def events (x : List UInt8) : List (List UInt8) := (initial.run x).events

end Reader

section Runs

variable {p : Reader} {x y d : List UInt8}

lemma run_append (p : Reader) (x y : List UInt8) : p.run (x ++ y) = (p.run x).run y := List.foldl_append

lemma run_cons (p : Reader) (b : UInt8) (x : List UInt8) : p.run (b :: x) = (p.read b).run x := rfl

lemma events_endLine (p : Reader) : p.events <+: p.endLine.events := by
  unfold Reader.endLine
  split_ifs
  · exact List.prefix_rfl
  · exact List.prefix_append _ _
  · exact List.prefix_rfl

/-- Events are only added. -/
lemma events_run (p : Reader) (x : List UInt8) : p.events <+: (p.run x).events := by
  induction x generalizing p with
  | nil => exact List.prefix_rfl
  | cons b x ih =>
    have hread : p.events <+: (p.read b).events := by
      unfold Reader.read
      split_ifs
      · exact List.prefix_rfl
      · exact events_endLine p
      · exact events_endLine p
      · exact List.prefix_rfl
    exact hread.trans (ih _)

/-- A text without an end of line. -/
def OneLine (x : List UInt8) : Prop := ∀ b ∈ x, b ≠ 10 ∧ b ≠ 13

lemma run_oneLine (hx : OneLine x) (hne : x ≠ []) :
    p.run x = { p with line := p.line ++ x, carriage := false } := by
  induction x generalizing p with
  | nil => exact absurd rfl hne
  | cons b x ih =>
    obtain ⟨hnewline, hreturn⟩ := hx b (by simp)
    rw [run_cons, Reader.read, if_neg hnewline, if_neg hreturn]
    by_cases hempty : x = []
    · rw [hempty]
      rfl
    · rw [ih (fun c hc => hx c (by simp [hc])) hempty]
      simp

/-- A line and its newline. -/
lemma run_line (hx : OneLine x) (hne : x ≠ []) :
    p.run (x ++ [10]) = { p with line := [], carriage := false, data := p.data ++ lineData (p.line ++ x) } := by
  rw [run_append, run_oneLine hx hne]
  simp [Reader.run, Reader.read, Reader.endLine, hne]

lemma lineData_data (d : List UInt8) : lineData (dataName ++ 58 :: 32 :: d) = [d] := by
  simp [lineData, fieldName, fieldValue, dataName]

lemma joined_append (ds : List (List UInt8)) (hne : ds ≠ []) (d : List UInt8) :
    joined (ds ++ [d]) = joined ds ++ 10 :: d := by
  induction ds with
  | nil => exact absurd rfl hne
  | cons e ds ih =>
    cases ds with
    | nil => rfl
    | cons f ds =>
      have htail := ih (by simp)
      simp only [List.cons_append, joined] at htail ⊢
      rw [htail]
      simp

/-- An event that is appended to a stream, with a line before its data: the lines of an unfinished event are taken for
lines of this one. -/
theorem run_event (hx : OneLine x) (hne : x ≠ []) (hd : OneLine d) :
    (p.run (x ++ 10 :: (dataName ++ 58 :: 32 :: d) ++ [10, 10])).events =
      p.events ++ [joined (p.data ++ lineData (p.line ++ x) ++ [d])] := by
  have hdata : OneLine (dataName ++ 58 :: 32 :: d) := by
    intro b hb
    simp only [dataName, List.mem_append, List.mem_cons, List.not_mem_nil, or_false] at hb
    rcases hb with (rfl | rfl | rfl | rfl) | rfl | rfl | hb
    · decide
    · decide
    · decide
    · decide
    · decide
    · decide
    · exact hd b hb
  rw [show x ++ 10 :: (dataName ++ 58 :: 32 :: d) ++ [10, 10] =
    (x ++ [10]) ++ ((dataName ++ 58 :: 32 :: d) ++ [10]) ++ [10] by simp, run_append, run_append, run_line hx hne,
    run_line hdata (by simp), List.nil_append, lineData_data]
  simp [Reader.run, Reader.read, Reader.endLine]

end Runs

end ShareSub.EventStream
