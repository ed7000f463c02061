import Mathlib.Data.List.Basic
import MeteredDownload.Arguments

/-!
# The grammar of the command line

A command line is written part by part (`Arguments.Reads`): a bare flag with its value in the argument behind it,
whatever that looks like, an attached value behind the flag in the same argument, and positional arguments, which are
all others.  There is one such reading (`Reads.unique`) or none, and none exactly where the last flag has nothing behind
it (`reads_or_lone`).  `Arguments.parse?` accepts a reading with one or two positional arguments whose bare values are
not empty.  An attached value may be empty, and that is the one difference between the two spellings
(`parse?_follows_grammar`).
-/
set_option autoImplicit false
namespace MeteredDownload.Arguments

def attach (value : String) : String := certificateFlag ++ "=" ++ value

inductive Part where
  | bare (value : String)
  | attached (value : String)
  | positional (text : String)
  deriving DecidableEq, Repr

namespace Part

def written : Part → List String
  | bare value => [certificateFlag, value]
  | attached value => [attach value]
  | positional text => [text]

def value? : Part → Option String
  | bare value | attached value => some value
  | positional _ => none

def text? : Part → Option String
  | positional text => some text
  | _ => none

def IsPlain : Part → Prop
  | positional text => text ≠ certificateFlag ∧ ∀ value, text ≠ attach value
  | _ => True

def IsFilled : Part → Prop
  | bare value => value ≠ ""
  | _ => True

end Part

structure Reads (arguments : List String) (parts : List Part) : Prop where
  written : arguments = parts.flatMap Part.written
  plain : ∀ part ∈ parts, part.IsPlain

/-- The arguments that the parts come to: one or two positional ones, of which the first is not empty, and the last
certificate. -/
structure Describes (parts : List Part) (a : Arguments) : Prop where
  texts : parts.filterMap Part.text? = a.url :: a.output?.toList
  url : a.url ≠ ""
  certificate : a.certificate? = (parts.filterMap Part.value?).getLast?

/-- The command line has a reading in which no value is empty, in either spelling, and the arguments are those that it
comes to. -/
def Grammatical (arguments : List String) (a : Arguments) : Prop :=
  ∃ parts, Reads arguments parts ∧ (∀ value ∈ parts.filterMap Part.value?, value ≠ "") ∧ Describes parts a

/-! ## The flag with its value -/

section Flag
variable {argument value other : String}

theorem toList_attach (value : String) : (attach value).toList = (certificateFlag ++ "=").toList ++ value.toList :=
  String.toList_append

theorem attach_injective (same : attach value = attach other) : value = other := by
  have lists := congrArg String.toList same
  rw [toList_attach, toList_attach] at lists
  exact String.toList_inj.mp (List.append_cancel_left lists)

theorem attach_ne_flag (value : String) : attach value ≠ certificateFlag := by
  intro same
  have lengths := congrArg (fun s => s.toList.length) same
  have flag : certificateFlag.toList.length = 6 := by decide
  have longer : (certificateFlag ++ "=").toList.length = 7 := by decide
  simp only [toList_attach, List.length_append, flag, longer] at lengths
  omega

theorem attachedCertificate?_attach (value : String) : attachedCertificate? (attach value) = some value := by
  have front : (certificateFlag ++ "=").toList.isPrefixOf (attach value).toList = true := by
    rw [List.isPrefixOf_iff_prefix, toList_attach]
    exact List.prefix_append ..
  rw [attachedCertificate?, if_pos front, toList_attach, List.drop_left, String.ofList_toList]

theorem eq_attach_of_attachedCertificate? (names : attachedCertificate? argument = some value) :
    argument = attach value := by
  unfold attachedCertificate? at names
  dsimp only at names
  split at names
  · next front =>
    obtain ⟨rest, same⟩ := List.isPrefixOf_iff_prefix.mp front
    rw [← same, List.drop_left] at names
    obtain rfl := Option.some.inj names
    rw [← String.toList_inj, toList_attach, String.toList_ofList, same]
  · cases names

theorem attachedCertificate?_of_isPlain (plain : (Part.positional argument).IsPlain) :
    attachedCertificate? argument = none := by
  cases names : attachedCertificate? argument with
  | none => rfl
  | some value => exact absurd (eq_attach_of_attachedCertificate? names) (plain.2 value)

theorem isPlain_positional_iff : (Part.positional argument).IsPlain ↔
    argument ≠ certificateFlag ∧ attachedCertificate? argument = none := by
  refine ⟨fun plain => ⟨plain.1, attachedCertificate?_of_isPlain plain⟩, fun ⟨other, unnamed⟩ => ⟨other, ?_⟩⟩
  rintro value rfl
  rw [attachedCertificate?_attach] at unnamed
  cases unnamed

instance : DecidablePred Part.IsPlain
  | .bare _ => .isTrue trivial
  | .attached _ => .isTrue trivial
  | .positional _ => decidable_of_iff _ isPlain_positional_iff.symm

instance (arguments : List String) (parts : List Part) : Decidable (Reads arguments parts) :=
  decidable_of_iff (arguments = parts.flatMap Part.written ∧ ∀ part ∈ parts, part.IsPlain)
    ⟨fun ⟨written, plain⟩ => ⟨written, plain⟩, fun reads => ⟨reads.written, reads.plain⟩⟩

theorem exists_part_of_ne_flag (other : argument ≠ certificateFlag) :
    ∃ part : Part, part.written = [argument] ∧ part.IsPlain := by
  by_cases named : ∃ value, argument = attach value
  · obtain ⟨value, rfl⟩ := named
    exact ⟨.attached value, rfl, trivial⟩
  · exact ⟨.positional argument, rfl, other, fun value same => named ⟨value, same⟩⟩

end Flag

/-! ## Readings -/

section Reads
variable {arguments before after rest : List String} {part : Part} {parts others : List Part}

theorem reads_nil : Reads [] [] := ⟨rfl, nofun⟩

theorem Reads.cons (reads : Reads rest parts) (plain : part.IsPlain) :
    Reads (part.written ++ rest) (part :: parts) :=
  ⟨by rw [reads.written, List.flatMap_cons], List.forall_mem_cons.mpr ⟨plain, reads.plain⟩⟩

/-- The first part of a command line and what follows it are those of no other reading. -/
theorem written_append_inj {p q : Part} (left : p.IsPlain) (right : q.IsPlain)
    (same : p.written ++ before = q.written ++ after) : p = q ∧ before = after := by
  cases p <;> cases q <;>
    simp only [Part.written, List.cons_append, List.nil_append, List.cons.injEq] at same
  case bare.bare v w => exact ⟨congrArg Part.bare same.2.1, same.2.2⟩
  case bare.attached v w => exact absurd same.1.symm (attach_ne_flag w)
  case bare.positional v text => exact absurd same.1.symm right.1
  case attached.bare v w => exact absurd same.1 (attach_ne_flag v)
  case attached.attached v w => exact ⟨congrArg Part.attached (attach_injective same.1), same.2⟩
  case attached.positional v text => exact absurd same.1.symm (right.2 v)
  case positional.bare text w => exact absurd same.1 left.1
  case positional.attached text w => exact absurd same.1 (left.2 w)
  case positional.positional text other => exact ⟨congrArg Part.positional same.1, same.2⟩

theorem Reads.unique (first : Reads arguments parts) (second : Reads arguments others) : parts = others := by
  have length_pos : ∀ part : Part, 0 < part.written.length := by
    intro part
    cases part <;> exact Nat.succ_pos _
  obtain ⟨rfl, plain⟩ := first
  obtain ⟨same, plain'⟩ := second
  induction parts generalizing others with
  | nil =>
    cases others with
    | nil => rfl
    | cons q others =>
      have lengths := congrArg List.length same
      simp only [List.flatMap_nil, List.flatMap_cons, List.length_nil, List.length_append] at lengths
      have := length_pos q
      omega
  | cons p parts ih =>
    rw [List.forall_mem_cons] at plain
    cases others with
    | nil =>
      have lengths := congrArg List.length same
      simp only [List.flatMap_nil, List.flatMap_cons, List.length_nil, List.length_append] at lengths
      have := length_pos p
      omega
    | cons q others =>
      rw [List.forall_mem_cons] at plain'
      rw [List.flatMap_cons, List.flatMap_cons] at same
      obtain ⟨rfl, more⟩ := written_append_inj plain.1 plain'.1 same
      rw [ih plain.2 more plain'.2]

theorem reads_or_lone (arguments : List String) :
    (∃ parts, Reads arguments parts) ∨
    ∃ before parts, Reads before parts ∧ arguments = before ++ [certificateFlag] := by
  -- A bare flag takes the argument behind it out of the line, so the induction goes over the length.
  induction h : arguments.length using Nat.strongRecOn generalizing arguments with
  | ind n ih =>
    have add : ∀ part : Part, part.IsPlain → ∀ rest : List String, rest.length < n →
        arguments = part.written ++ rest →
        (∃ parts, Reads arguments parts) ∨
          ∃ before parts, Reads before parts ∧ arguments = before ++ [certificateFlag] := by
      rintro part plain rest shorter rfl
      rcases ih rest.length shorter rest rfl with ⟨parts, reads⟩ | ⟨before, parts, reads, rfl⟩
      · exact .inl ⟨part :: parts, reads.cons plain⟩
      · exact .inr ⟨part.written ++ before, part :: parts, reads.cons plain, (List.append_assoc ..).symm⟩
    cases arguments with
    | nil => exact .inl ⟨[], reads_nil⟩
    | cons argument rest =>
      rw [List.length_cons] at h
      by_cases flag : argument = certificateFlag
      · cases rest with
        | nil => exact .inr ⟨[], [], reads_nil, by rw [flag, List.nil_append]⟩
        | cons value rest =>
          rw [List.length_cons] at h
          exact add (.bare value) trivial rest (by omega) (by rw [flag]; rfl)
      · obtain ⟨part, written, plain⟩ := exists_part_of_ne_flag flag
        exact add part plain rest (by omega) (by rw [written]; rfl)

end Reads

/-! ## What is read -/

section Scan
variable {arguments before after : List String} {part : Part} {parts : List Part} {a : Arguments}

def Part.add (part : Part) (found : List String × Option String) : List String × Option String :=
  (part.text?.toList ++ found.1, found.2.or part.value?)

theorem scan?_lone : scan? [certificateFlag] = none := if_pos rfl

theorem scan?_written (part : Part) (plain : part.IsPlain) (rest : List String) :
    (part.IsFilled → scan? (part.written ++ rest) = (scan? rest).map part.add) ∧
      (¬ part.IsFilled → scan? (part.written ++ rest) = none) := by
  cases part with
  | bare value =>
    have step : scan? (certificateFlag :: value :: rest) =
        if value.isEmpty then none else (scan? rest).map (Part.bare value).add := by
      rw [scan?, if_pos rfl]
      rfl
    have empty : value.isEmpty = true ↔ value = "" := String.isEmpty_iff
    refine ⟨fun filled => ?_, fun unfilled => ?_⟩
    · exact step.trans (if_neg (empty.not.mpr filled))
    · exact step.trans (if_pos (empty.mpr (not_not.mp unfilled)))
  | attached value =>
    have flag := attach_ne_flag value
    have named := attachedCertificate?_attach value
    have step : scan? (attach value :: rest) = (scan? rest).map (Part.attached value).add := by
      cases rest <;> simp only [scan?, if_neg flag, named]
      all_goals rfl
    exact ⟨fun _ => step, fun unfilled => absurd trivial unfilled⟩
  | positional text =>
    have flag := plain.1
    have named := attachedCertificate?_of_isPlain plain
    have adds : ∀ found, (Part.positional text).add found = (text :: found.1, found.2) :=
      fun found => congrArg (Prod.mk (text :: found.1)) Option.or_none
    have step : scan? (text :: rest) = (scan? rest).map (Part.positional text).add := by
      rw [funext adds]
      cases rest <;> simp only [scan?, if_neg flag, named]
      rfl
    exact ⟨fun _ => step, fun unfilled => absurd trivial unfilled⟩

def addAll (parts : List Part) (found : List String × Option String) : List String × Option String :=
  (parts.filterMap Part.text? ++ found.1, found.2.or (parts.filterMap Part.value?).getLast?)

theorem addAll_cons (part : Part) (parts : List Part) (found : List String × Option String) :
    addAll (part :: parts) found = part.add (addAll parts found) := by
  cases part <;> simp [addAll, Part.add, Part.text?, Part.value?, List.filterMap_cons, List.getLast?_cons]

theorem scan?_append (reads : Reads before parts) (after : List String) :
    ((∀ part ∈ parts, part.IsFilled) → scan? (before ++ after) = (scan? after).map (addAll parts)) ∧
      (¬ (∀ part ∈ parts, part.IsFilled) → scan? (before ++ after) = none) := by
  obtain ⟨rfl, plain⟩ := reads
  induction parts with
  | nil =>
    have nothing : addAll [] = id := by
      funext found
      simp [addAll]
    simp [nothing]
  | cons part parts ih =>
    rw [List.forall_mem_cons] at plain ⊢
    have step := scan?_written part plain.1 (parts.flatMap Part.written ++ after)
    have more := ih plain.2
    rw [List.flatMap_cons, List.append_assoc]
    refine ⟨fun filled => ?_, fun unfilled => ?_⟩
    · have both : addAll (part :: parts) = part.add ∘ addAll parts := funext (addAll_cons part parts)
      rw [step.1 filled.1, more.1 filled.2, Option.map_map, both]
    · by_cases first : part.IsFilled
      · rw [step.1 first, more.2 (fun rest => unfilled ⟨first, rest⟩)]
        rfl
      · exact step.2 first

theorem parse?_eq_some_iff : parse? arguments = some a ↔
    scan? arguments = some (a.url :: a.output?.toList, a.certificate?) ∧ a.url ≠ "" := by
  obtain ⟨url, output?, certificate?⟩ := a
  have empty : ∀ s : String, s.isEmpty = true ↔ s = "" := fun s => String.isEmpty_iff
  unfold parse?
  rcases scan? arguments with - | ⟨- | ⟨first, - | ⟨second, - | ⟨third, more⟩⟩⟩, found?⟩
  · simp
  · simp
  · by_cases nothing : first = "" <;> cases output? <;> simp [empty, nothing] <;> grind
  · by_cases nothing : first = "" <;> cases output? <;> simp [empty, nothing] <;> grind
  · cases output? <;> simp

/-- A command line is accepted if it has a reading whose bare values are not empty, and only then. -/
theorem parse?_iff_reads : parse? arguments = some a ↔
    ∃ parts, Reads arguments parts ∧ (∀ part ∈ parts, part.IsFilled) ∧ Describes parts a := by
  rw [parse?_eq_some_iff]
  constructor
  · rintro ⟨found, url⟩
    rcases reads_or_lone arguments with ⟨parts, reads⟩ | ⟨before, parts, reads, rfl⟩
    · have scanned := scan?_append reads []
      rw [List.append_nil] at scanned
      by_cases filled : ∀ part ∈ parts, part.IsFilled
      · rw [scanned.1 filled] at found
        have same : addAll parts ([], none) = (a.url :: a.output?.toList, a.certificate?) := by
          simpa [scan?] using found
        simp only [addAll, List.append_nil, Option.none_or, Prod.mk.injEq] at same
        exact ⟨parts, reads, filled, same.1, url, same.2.symm⟩
      · rw [scanned.2 filled] at found
        cases found
    · have scanned := scan?_append reads [certificateFlag]
      rw [scan?_lone] at scanned
      by_cases filled : ∀ part ∈ parts, part.IsFilled
      · rw [scanned.1 filled] at found
        cases found
      · rw [scanned.2 filled] at found
        cases found
  · rintro ⟨parts, reads, filled, described⟩
    have scanned := (scan?_append reads []).1 filled
    rw [List.append_nil] at scanned
    refine ⟨?_, described.url⟩
    rw [scanned, ← described.texts, described.certificate]
    simp [scan?, addAll]

theorem values_ne_empty_iff : (∀ value ∈ parts.filterMap Part.value?, value ≠ "") ↔
    (∀ part ∈ parts, part.IsFilled) ∧ .attached "" ∉ parts := by
  induction parts with
  | nil => simp
  | cons part parts ih =>
    rw [List.filterMap_cons, List.forall_mem_cons, List.mem_cons]
    cases part with
    | bare value =>
      simp only [Part.value?, Part.IsFilled, List.forall_mem_cons, ih, reduceCtorEq, false_or]
      tauto
    | attached value =>
      have empty : Part.attached "" = .attached value ↔ value = "" := by
        rw [Part.attached.injEq, eq_comm]
      simp only [Part.value?, Part.IsFilled, List.forall_mem_cons, ih, empty]
      tauto
    | positional text => simp only [Part.value?, Part.IsFilled, ih, reduceCtorEq, false_or, true_and]

theorem parse?_congr (same : scan? before = scan? after) : parse? before = parse? after := by
  rw [parse?, parse?, same]

theorem parse?_attach {value : String} (filled : value ≠ "") (reads : Reads before parts) (after : List String) :
    parse? (before ++ certificateFlag :: value :: after) = parse? (before ++ attach value :: after) := by
  have bare : scan? (certificateFlag :: value :: after) = (scan? after).map (Part.bare value).add :=
    (scan?_written (.bare value) trivial after).1 filled
  have attached : scan? (attach value :: after) = (scan? after).map (Part.attached value).add :=
    (scan?_written (.attached value) trivial after).1 trivial
  have same : scan? (certificateFlag :: value :: after) = scan? (attach value :: after) := bare.trans attached.symm
  have left := scan?_append reads (certificateFlag :: value :: after)
  have right := scan?_append reads (attach value :: after)
  apply parse?_congr
  by_cases good : ∀ part ∈ parts, part.IsFilled
  · rw [left.1 good, right.1 good, same]
  · rw [left.2 good, right.2 good]

theorem parse?_bare_empty (reads : Reads before parts) (after : List String) :
    parse? (before ++ certificateFlag :: "" :: after) = none := by
  have bare : scan? (certificateFlag :: "" :: after) = none :=
    (scan?_written (.bare "") trivial after).2 (fun filled => filled rfl)
  have found := scan?_append reads (certificateFlag :: "" :: after)
  have nothing : scan? (before ++ certificateFlag :: "" :: after) = none := by
    by_cases good : ∀ part ∈ parts, part.IsFilled
    · rw [found.1 good, bare]
      rfl
    · exact found.2 good
  rw [parse?, nothing]

end Scan

/-- A command line is accepted exactly if it has a reading with one or two positional arguments, the first not empty, in
which no bare value is empty.  So it is treated as if empty values were refused in both spellings unless it is accepted
with an empty value attached to a flag, and behind any reading the two spellings of a value come to the same unless the
value is empty and accepted where it is attached. -/
theorem parse?_follows_grammar (arguments : List String) :
    (∀ a, parse? arguments = some a ↔
      ∃ parts, Reads arguments parts ∧ (∀ part ∈ parts, part.IsFilled) ∧ Describes parts a) ∧
    ((∀ a, parse? arguments = some a ↔ Grammatical arguments a) ↔
      ∀ parts, Reads arguments parts → .attached "" ∈ parts → parse? arguments = none) ∧
    ∀ parts value after, Reads arguments parts →
      (parse? (arguments ++ certificateFlag :: value :: after) = parse? (arguments ++ attach value :: after) ↔
        value ≠ "" ∨ parse? (arguments ++ attach "" :: after) = none) := by
  refine ⟨fun _ => parse?_iff_reads, ?_, ?_⟩
  · constructor
    · intro agrees parts reads empty
      rw [Option.eq_none_iff_forall_ne_some]
      intro a accepted
      obtain ⟨others, reads', filled, -⟩ := (agrees a).mp accepted
      rw [reads'.unique reads, values_ne_empty_iff] at filled
      exact filled.2 empty
    · intro refused a
      rw [parse?_iff_reads]
      refine exists_congr fun parts => and_congr_right fun reads => ?_
      rw [values_ne_empty_iff, and_assoc, and_congr_right_iff]
      intro filled
      refine ⟨fun described => ⟨fun empty => ?_, described⟩, fun both => both.2⟩
      have accepted : parse? arguments = some a := parse?_iff_reads.mpr ⟨parts, reads, filled, described⟩
      rw [refused parts reads empty] at accepted
      cases accepted
  · intro parts value after reads
    by_cases empty : value = ""
    · subst empty
      rw [parse?_bare_empty reads]
      simp [eq_comm]
    · simp [empty, parse?_attach empty reads]

theorem parse?_follows_grammar_of_flag_as_value :
    let before := ["--cert", "--cert=", "u"]
    let parts : List Part := [.bare "--cert=", .positional "u"]
    Reads before parts ∧
      parse? (before ++ ["--cert", "x", "--cert=", "y"]) = parse? (before ++ ["--cert=x", "--cert=", "y"]) ∧
      parse? (before ++ ["--cert=x", "--cert=", "y"]) = some ⟨"u", some "y", some ""⟩ ∧
      parse? (before ++ ["--cert", ""]) ≠ parse? (before ++ ["--cert="]) ∧
      ¬ ∀ a, parse? (before ++ ["--cert="]) = some a ↔ Grammatical (before ++ ["--cert="]) a := by
  intro before parts
  obtain ⟨-, -, spellings⟩ := parse?_follows_grammar before
  obtain ⟨-, refuses, -⟩ := parse?_follows_grammar (before ++ ["--cert="])
  have reads : Reads before parts := by decide +kernel
  refine ⟨reads, ?_, by decide +kernel, ?_, ?_⟩
  · exact (spellings parts "x" ["--cert=", "y"] reads).mpr (.inl (by decide))
  · intro same
    have empty := (spellings parts "" [] reads).mp same
    exact absurd empty (by decide +kernel)
  · intro agrees
    have empty := refuses.mp agrees (parts ++ [.attached ""]) (by decide +kernel) (by decide)
    exact absurd empty (by decide +kernel)

/-- An empty value is refused behind a bare flag, but accepted where it is attached. -/
theorem not_refused_of_every_empty_value :
    (¬ ∀ arguments a, parse? arguments = some a ↔ Grammatical arguments a) ∧
    ¬ ∀ before parts value after, Reads before parts →
      parse? (before ++ certificateFlag :: value :: after) = parse? (before ++ attach value :: after) := by
  refine ⟨fun every => ?_, fun every => ?_⟩
  · have accepted : parse? ["--cert=", "http://a/x"] = some ⟨"http://a/x", none, some ""⟩ := by decide +kernel
    have reads : Reads ["--cert=", "http://a/x"] [.attached "", .positional "http://a/x"] := by decide +kernel
    obtain ⟨parts, reads', filled, -⟩ := (every _ _).mp accepted
    rw [reads'.unique reads] at filled
    exact filled "" (by decide) rfl
  · exact absurd (every [] [] "" ["http://a/x"] reads_nil) (by decide +kernel)

end MeteredDownload.Arguments
