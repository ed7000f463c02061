import Mathlib.Data.List.Infix
import MeteredDownload.Proofs.Delivery

/-!
# The course of a transfer

A transfer goes on through some of its reads (`Transfer.Goes`), each of which changes it in one way
(`Transfer.after`), and then its reading ends (`Transfer.Ends`): the body is at its end, a read has failed for
good, or the listener objects to the report that a block has caused.  `readAll_course` says that every reading is
of this kind.  So what each read keeps is kept up to the end, and at the start of every read.
-/
set_option autoImplicit false
namespace MeteredDownload
namespace Transfer

open Numeric

variable {κ : Type} [Clock κ]

def awaited (step : ReadStep) (t : Transfer κ) : Transfer κ := (t.wait step.delays).onDisplay Display.pause

def after (step : ReadStep) (t : Transfer κ) : Transfer κ :=
  match step.outcome with
  | .error _ => t.wait step.delays
  | .ok bytes => t.received step bytes.size

def objection? (step : ReadStep) (t : Transfer κ) : Option Value :=
  match step.outcome with
  | .error _ => none
  | .ok bytes => ((t.awaited step).receive bytes.size).2

def afterAll (steps : List ReadStep) (t : Transfer κ) : Transfer κ := steps.foldl (fun t step => t.after step) t

inductive Goes (t : Transfer κ) : List ReadStep → Prop
  | start : Goes t []
  | on {made : List ReadStep} {step : ReadStep} (before : Goes t made) (on : step.goesOn = true)
      (unopposed : (t.afterAll made).objection? step = none) : Goes t (made ++ [step])

/-- What the reading comes to if the transfer does not go on after the next read. -/
inductive Ends (t : Transfer κ) : List ReadStep → Reading κ → Prop
  | spent (interrupts : Nat) (store : Store) (visits : Array TransferState) :
      Ends t [] ((t.onDisplay Display.pause).conclude interrupts store visits)
  | whole {step : ReadStep} (rest : List ReadStep) (interrupts : Nat) (store : Store)
      (visits : Array TransferState) (last : step.isEnd = true) :
      Ends t (step :: rest) ((t.awaited step).conclude interrupts store visits)
  | failed {step : ReadStep} {reason : Value} (rest : List ReadStep) (visits : Array TransferState)
      (failed : step.outcome = .error reason) (final : reason.isInterrupted = false) :
      Ends t (step :: rest) ⟨(t.awaited step).logFailure reason, .error reason, visits⟩
  | opposed {step : ReadStep} {objection : Value} (rest : List ReadStep) (visits : Array TransferState)
      (on : step.goesOn = true) (opposed : t.objection? step = some objection) :
      Ends t (step :: rest) ⟨t.after step, .error objection, visits⟩

section Goes
variable {t : Transfer κ} {step : ReadStep} {steps made rest : List ReadStep}

theorem afterAll_concat (made : List ReadStep) (step : ReadStep) (t : Transfer κ) :
    t.afterAll (made ++ [step]) = (t.afterAll made).after step := by
  simp [afterAll]

theorem Goes.cons (on : step.goesOn = true) (unopposed : t.objection? step = none)
    (later : (t.after step).Goes made) : t.Goes (step :: made) := by
  induction later with
  | start => exact Goes.start.on on unopposed
  | on _ next unopposed ih => exact ih.on next unopposed

theorem Goes.of_prefix (goes : t.Goes made) {earlier : List ReadStep} (before : earlier <+: made) :
    t.Goes earlier := by
  induction goes with
  | start =>
    rw [List.prefix_nil.mp before]
    exact .start
  | @on made step goes next unopposed ih =>
    rcases List.prefix_concat_iff.mp before with same | inside
    · rw [same]
      exact goes.on next unopposed
    · exact ih inside

theorem Goes.goesOn_of_mem (goes : t.Goes made) (member : step ∈ made) : step.goesOn = true := by
  induction goes with
  | start => cases member
  | on _ on _ ih =>
    rcases List.mem_append.mp member with before | last
    · exact ih before
    · rw [List.mem_singleton.mp last]
      exact on

theorem Goes.keeps (goes : t.Goes made) (Kept : List ReadStep → Transfer κ → Prop) (start : Kept [] t)
    (keep : ∀ (made : List ReadStep) (step : ReadStep), Kept made (t.afterAll made) → step.goesOn = true →
      (t.afterAll made).objection? step = none → Kept (made ++ [step]) ((t.afterAll made).after step)) :
    Kept made (t.afterAll made) := by
  induction goes with
  | start => exact start
  | on _ next unopposed ih =>
    rw [afterAll_concat]
    exact keep _ _ ih next unopposed

end Goes

/-! ## Every reading takes such a course -/

/-- The states in which a transfer begins its reads, one after each part of those that it went on through. -/
def stations (made : List ReadStep) (t : Transfer κ) : List TransferState :=
  made.inits.map fun earlier => (t.afterAll earlier).state

theorem stations_nil (t : Transfer κ) : t.stations [] = [t.state] := rfl

theorem stations_cons (step : ReadStep) (made : List ReadStep) (t : Transfer κ) :
    t.stations (step :: made) = t.state :: (t.after step).stations made := by
  simp [stations, afterAll, Function.comp_def]

theorem length_stations (made : List ReadStep) (t : Transfer κ) : (t.stations made).length = made.length + 1 := by
  simp [stations]

structure Course (t : Transfer κ) (steps : List ReadStep) (visits : Array TransferState) (reading : Reading κ)
    (made rest : List ReadStep) : Prop where
  parts : steps = made ++ rest
  goes : t.Goes made
  ends : (t.afterAll made).Ends rest reading
  visits : reading.visits.toList = visits.toList ++ t.stations made

section Reading
variable {t : Transfer κ} {step : ReadStep} {steps made rest : List ReadStep} {visits : Array TransferState}
  {reading : Reading κ}

theorem receive_awaited {bytes : ByteArray} (came : step.outcome = .ok bytes) :
    ((t.wait step.delays).onDisplay Display.pause).receive bytes.size = (t.after step, t.objection? step) := by
  rw [after, objection?, came]
  rfl

theorem readAll_of_opposed {objection : Value} (on : step.goesOn = true)
    (opposed : t.objection? step = some objection) (interrupts : Nat) (memory : Memory) (buffer : ByteBuffer) :
    t.readAll (step :: rest) interrupts memory buffer visits =
      ⟨t.after step, .error objection, visits.push t.state⟩ := by
  cases outcome : step.outcome with
  | error reason => simp [objection?, outcome] at opposed
  | ok bytes =>
    have filled := ReadStep.isEmpty_of_goesOn on outcome
    simp only [readAll, outcome, filled, append_put, receive_awaited outcome, opposed, Bool.false_eq_true, if_false]

theorem readAll_of_unopposed (on : step.goesOn = true) (unopposed : t.objection? step = none)
    (rest : List ReadStep) (interrupts : Nat) (memory : Memory) (buffer : ByteBuffer)
    (visits : Array TransferState) :
    ∃ (retries : Nat) (later : Memory) (filled : ByteBuffer),
      t.readAll (step :: rest) interrupts memory buffer visits =
        (t.after step).readAll rest retries later filled (visits.push t.state) := by
  cases outcome : step.outcome with
  | error reason =>
    have again : reason.isInterrupted = true := by simpa [ReadStep.goesOn, outcome] using on
    refine ⟨interrupts + 1, memory, buffer, ?_⟩
    rw [readAll_of_interrupted outcome again, after, outcome]
  | ok bytes =>
    have filled := ReadStep.isEmpty_of_goesOn on outcome
    refine ⟨interrupts, (stored bytes buffer memory).2, (stored bytes buffer memory).1, ?_⟩
    simp only [readAll, outcome, filled, append_put, receive_awaited outcome, unopposed, Bool.false_eq_true, if_false]

theorem ends_of_stop (stop : step.goesOn = false) (rest : List ReadStep) (interrupts : Nat) (memory : Memory)
    (buffer : ByteBuffer) (visits : Array TransferState) (t : Transfer κ) :
    t.Ends (step :: rest) (t.readAll (step :: rest) interrupts memory buffer visits) ∧
      (t.readAll (step :: rest) interrupts memory buffer visits).visits = visits.push t.state := by
  cases outcome : step.outcome with
  | error reason =>
    have final : reason.isInterrupted = false := by simpa [ReadStep.goesOn, outcome] using stop
    rw [readAll_of_failed outcome final]
    exact ⟨.failed rest _ outcome final, rfl⟩
  | ok bytes =>
    have nothing : bytes.isEmpty = true := by simpa [ReadStep.goesOn, outcome] using stop
    have last : step.isEnd = true := by simp [ReadStep.isEnd, outcome, nothing]
    rw [readAll_of_end outcome nothing]
    exact ⟨.whole rest _ _ _ last, visits_conclude ..⟩

theorem Course.cons (on : step.goesOn = true) (unopposed : t.objection? step = none)
    (course : (t.after step).Course steps (visits.push t.state) reading made rest) :
    t.Course (step :: steps) visits reading (step :: made) rest := by
  refine ⟨?_, course.goes.cons on unopposed, course.ends, ?_⟩
  · rw [course.parts, List.cons_append]
  · rw [course.visits, stations_cons]
    simp

theorem Course.last (ends : t.Ends steps reading) (visited : reading.visits = visits.push t.state) :
    t.Course steps visits reading [] steps := by
  refine ⟨rfl, .start, ends, ?_⟩
  rw [visited, stations_nil]
  simp

theorem readAll_course (steps : List ReadStep) (interrupts : Nat) (memory : Memory) (buffer : ByteBuffer)
    (visits : Array TransferState) (t : Transfer κ) :
    ∃ made rest, t.Course steps visits (t.readAll steps interrupts memory buffer visits) made rest := by
  -- One read is made before all the others: it is the last, or the rest takes a course from behind it.
  induction steps generalizing interrupts memory buffer visits t with
  | nil => exact ⟨[], [], .last (.spent ..) (visits_conclude ..)⟩
  | cons step rest ih =>
    by_cases on : step.goesOn = true
    · cases answer : t.objection? step with
      | some objection =>
        rw [readAll_of_opposed on answer]
        exact ⟨[], _, .last (.opposed rest _ on answer) rfl⟩
      | none =>
        obtain ⟨retries, later, filled, same⟩ := readAll_of_unopposed on answer rest interrupts memory
          buffer visits
        obtain ⟨made, left, course⟩ := ih retries later filled (visits.push t.state) (t.after step)
        rw [same]
        exact ⟨step :: made, left, .cons on answer course⟩
    · have stop : step.goesOn = false := by simpa using on
      obtain ⟨ends, visited⟩ := ends_of_stop stop rest interrupts memory buffer visits t
      exact ⟨[], _, .last ends visited⟩

end Reading

def reading (source : Source) (t : Transfer κ) : Reading κ :=
  match t.allocate with
  | .error failure => ⟨t, .error failure, #[]⟩
  | .ok (buffer, memory) => t.readAll (source.reads t.blockSize) 0 memory buffer #[]

/-- A transfer reads nothing at all, or it takes a course through the reads of its source. -/
theorem reading_course (source : Source) (t : Transfer κ) :
    (∃ failure : Failure, t.reading source = ⟨t, .error failure, #[]⟩) ∨
    ∃ made rest, t.Course (source.reads t.blockSize) #[] (t.reading source) made rest := by
  unfold reading
  cases t.allocate with
  | error failure => exact .inl ⟨failure, rfl⟩
  | ok room => exact .inr (readAll_course ..)

end Transfer
end MeteredDownload
