import Mathlib.Data.List.Forall2
import Flyweight.Source.Output

/- What is handed to a sink.

   A program that puts out units is compared with `putEach`, which makes a list of calls
   and nothing else; so the calls of a program are read off an equation between programs,
   whatever the sink does with them, and a program that is equal to a plain failure makes
   none. -/

namespace Flyweight.Source

/-! ## Units of a schema -/

theorem mapM_ok_iff {f : α → Except ε β} {items : List α} {results : List β} :
    items.mapM f = .ok results ↔ List.Forall₂ (fun a b => f a = .ok b) items results := by
  induction items generalizing results with
  | nil => cases results <;> simp [pure, Except.pure]
  | cons a rest ih =>
    rw [List.mapM_cons]
    cases h : f a with
    | error e => cases results <;> simp [h, bind, Except.bind]
    | ok b =>
      cases hr : rest.mapM f with
      | error e =>
        rw [hr] at ih
        cases results <;> simp [h, ← ih, bind, Except.bind]
      | ok bs =>
        rw [hr] at ih
        cases results <;> simp [h, ← ih, bind, Except.bind, pure, Except.pure]

/-- What is related to a member of one list is a member of the other. -/
theorem mem_of_forall₂ {R : α → β → Prop} {as : List α} {bs : List β} (h : List.Forall₂ R as bs)
    {b : β} (mem : b ∈ bs) : ∃ a ∈ as, R a b := by
  induction h with
  | nil => cases mem
  | @cons a b' rest _ first _ ih =>
    rcases List.mem_cons.mp mem with rfl | behind
    · exact ⟨a, List.mem_cons_self, first⟩
    · obtain ⟨a', inside, related⟩ := ih behind
      exact ⟨a', List.mem_cons_of_mem a inside, related⟩

/-- What two lists that are related hold at one place is related. -/
theorem getElem?_of_forall₂ {R : α → β → Prop} {as : List α} {bs : List β}
    (h : List.Forall₂ R as bs) {i : Nat} {a : α} (found : as[i]? = some a) :
    ∃ b, bs[i]? = some b ∧ R a b := by
  induction h generalizing i with
  | nil => exact nomatch found
  | @cons a' b' rest rest' first _ ih =>
    cases i with
    | zero =>
      obtain rfl : a' = a := by simpa using found
      exact ⟨b', rfl, first⟩
    | succ i => exact ih (by simpa using found)

/-- A list that is not mapped fails at one of its items. -/
theorem error_of_mapM {f : α → Except ε β} {items : List α} {e : ε}
    (h : items.mapM f = .error e) : ∃ a ∈ items, f a = .error e := by
  induction items with
  | nil => simp [pure, Except.pure] at h
  | cons a rest ih =>
    rw [List.mapM_cons] at h
    cases ha : f a with
    | error e' =>
      obtain rfl : e' = e := by simpa [ha, bind, Except.bind] using h
      exact ⟨a, List.mem_cons_self, ha⟩
    | ok b =>
      cases hr : rest.mapM f with
      | error e' =>
        obtain rfl : e' = e := by simpa [ha, hr, bind, Except.bind] using h
        obtain ⟨a', inside, failed⟩ := ih hr
        exact ⟨a', List.mem_cons_of_mem a inside, failed⟩
      | ok bs => simp [ha, hr, bind, Except.bind, pure, Except.pure] at h

/-- The unit of some list of the schema cannot be generated, for this reason. -/
inductive Fails (o : Options) (s : Schema) : SourceError → Prop where
  | header {e : SourceError} (failed : headerUnit o s = .error e) : Fails o s e
  | type {e : SourceError} {tokens : List Token} (listed : tokens ∈ s.types)
    (failed : typeUnit o s tokens = .error e) : Fails o s e
  | message {e : SourceError} {tokens : List Token} (listed : tokens ∈ s.messages)
    (failed : messageUnit o s tokens = .error e) : Fails o s e

/-- The units of all lists of the schema, in the order of the lists. -/
structure Generated (o : Options) (s : Schema) (header : SourceUnit)
    (types messages : List SourceUnit) : Prop where
  header : headerUnit o s = .ok header
  types : List.Forall₂ (fun tokens u => typeUnit o s tokens = .ok u) s.types types
  messages : List.Forall₂ (fun tokens u => messageUnit o s tokens = .ok u) s.messages messages

theorem fails_of_units {o : Options} {s : Schema} {e : SourceError}
    (h : units o s = .error e) : Fails o s e := by
  cases hh : headerUnit o s with
  | error e' =>
    obtain rfl : e' = e := by simpa [units, hh, bind, Except.bind] using h
    exact .header hh
  | ok header =>
    cases ht : s.types.mapM (typeUnit o s) with
    | error e' =>
      obtain rfl : e' = e := by simpa [units, hh, ht, bind, Except.bind] using h
      obtain ⟨tokens, listed, failed⟩ := error_of_mapM ht
      exact .type listed failed
    | ok types =>
      cases hm : s.messages.mapM (messageUnit o s) with
      | error e' =>
        obtain rfl : e' = e := by simpa [units, hh, ht, hm, bind, Except.bind] using h
        obtain ⟨tokens, listed, failed⟩ := error_of_mapM hm
        exact .message listed failed
      | ok messages => simp [units, hh, ht, hm, bind, Except.bind, pure, Except.pure] at h

theorem units_ok_iff {o : Options} {s : Schema} {us : List SourceUnit} :
    units o s = .ok us ↔ ∃ header types messages, Generated o s header types messages ∧
      us = header :: (types ++ messages) := by
  constructor
  · intro h
    cases hh : headerUnit o s with
    | error e => simp [units, hh, bind, Except.bind] at h
    | ok header =>
      cases ht : s.types.mapM (typeUnit o s) with
      | error e => simp [units, hh, ht, bind, Except.bind] at h
      | ok types =>
        cases hm : s.messages.mapM (messageUnit o s) with
        | error e => simp [units, hh, ht, hm, bind, Except.bind] at h
        | ok messages =>
          refine ⟨header, types, messages, ⟨hh, mapM_ok_iff.mp ht, mapM_ok_iff.mp hm⟩, ?_⟩
          simpa [units, hh, ht, hm, bind, Except.bind, pure, Except.pure] using h.symm
  · intro given
    obtain ⟨header, types, messages, ⟨hh, ht, hm⟩, rfl⟩ := given
    simp [units, hh, mapM_ok_iff.mpr ht, mapM_ok_iff.mpr hm, bind, Except.bind, pure, Except.pure]

/-- Where one list fails, the units of the schema are not generated. -/
theorem units_of_fails {o : Options} {s : Schema} {e : SourceError} (h : Fails o s e) :
    ∃ e', Fails o s e' ∧ units o s = .error e' := by
  -- An item that is mapped has a result, so a failing one excludes that all are.
  have mapped {items : List (List Token)} {f : List Token → Except SourceError SourceUnit}
      {results : List SourceUnit} (all : List.Forall₂ (fun a b => f a = .ok b) items results)
      {tokens : List Token} (listed : tokens ∈ items) : ∃ u, f tokens = .ok u := by
    obtain ⟨i, found⟩ := List.getElem?_of_mem listed
    obtain ⟨u, _, ok⟩ := getElem?_of_forall₂ all found
    exact ⟨u, ok⟩
  cases hu : units o s with
  | error e' => exact ⟨e', fails_of_units hu, rfl⟩
  | ok us =>
    obtain ⟨header, types, messages, ⟨hh, ht, hm⟩, -⟩ := units_ok_iff.mp hu
    cases h with
    | header failed => simp [failed] at hh
    | type listed failed =>
      obtain ⟨u, ok⟩ := mapped ht listed
      simp [failed] at ok
    | message listed failed =>
      obtain ⟨u, ok⟩ := mapped hm listed
      simp [failed] at ok

/-! ## Calls -/

/-- What a sink is called with for a unit. -/
def SourceUnit.call (u : SourceUnit) : String × String := (u.name, u.text)

/-- What a sink is called with behind all units. -/
def indexCalls (o : Options) (us : List SourceUnit) : List (String × String) :=
  if o.moduleIndex then [(moduleIndexName, moduleIndex (us.map (·.name)))] else []

section Calls
variable {m : Type → Type} [Monad m] (sink : Sink m)

/-- Calls a sink again and again. -/
def putEach (calls : List (String × String)) : Put m Unit :=
  calls.forM fun (name, text) => sink name text

/-- Puts out the units of lists, each as soon as it is generated. -/
def putStage (generate : List Token → Except SourceError SourceUnit) (lists : List (List Token)) :
    Put m Unit :=
  lists.forM fun tokens => do
    let u ← Put.generated (generate tokens)
    sink u.name u.text

theorem putTypes_eq (o : Options) (s : Schema) :
    putTypes o s sink = putStage sink (typeUnit o s) s.types := rfl

theorem putMessages_eq (o : Options) (s : Schema) :
    putMessages o s sink = putStage sink (messageUnit o s) s.messages := rfl

theorem putEach_nil : putEach sink [] = pure () := rfl

theorem putEach_cons (call : String × String) (rest : List (String × String)) :
    putEach sink (call :: rest) = sink call.1 call.2 >>= fun _ => putEach sink rest := rfl

theorem forM_units (us : List SourceUnit) :
    us.forM (fun u => sink u.name u.text) = putEach sink (us.map SourceUnit.call) := by
  induction us with
  | nil => rfl
  | cons u rest ih =>
    show (sink u.name u.text >>= fun _ => rest.forM fun u => sink u.name u.text) = _
    rw [List.map_cons, putEach_cons, ih]
    rfl

variable [LawfulMonad m]

theorem throw_bind {α β : Type} (e : OutputError) (next : α → Put m β) :
    (throw e >>= next) = throw e := by
  apply ExceptT.ext
  simp

theorem putEach_append (first second : List (String × String)) :
    putEach sink (first ++ second) = putEach sink first >>= fun _ => putEach sink second := by
  induction first with
  | nil => simp [putEach_nil]
  | cons call rest ih => rw [List.cons_append, putEach_cons, putEach_cons, ih, bind_assoc]

/-- Lists that all have units are put out as these units, before the lists behind them. -/
theorem putStage_append {generate : List Token → Except SourceError SourceUnit}
    {before : List (List Token)} {done : List SourceUnit}
    (all : List.Forall₂ (fun tokens u => generate tokens = .ok u) before done)
    (after : List (List Token)) :
    putStage sink generate (before ++ after) =
      putEach sink (done.map SourceUnit.call) >>= fun _ => putStage sink generate after := by
  induction all with
  | nil => simp [putEach_nil]
  | @cons tokens u rest us first _ ih =>
    calc putStage sink generate (tokens :: (rest ++ after))
        = (Put.generated (generate tokens) >>= fun u => sink u.name u.text) >>=
            fun _ => putStage sink generate (rest ++ after) := rfl
      _ = sink u.name u.text >>= fun _ => putStage sink generate (rest ++ after) := by
          simp only [first, Put.generated, pure_bind]
      _ = putEach sink ((u :: us).map SourceUnit.call) >>=
            fun _ => putStage sink generate after := by
          rw [ih, List.map_cons, putEach_cons, bind_assoc]
          rfl

/-- A stage in which every list has a unit puts out these units. -/
theorem putStage_of_forall {generate : List Token → Except SourceError SourceUnit}
    {lists : List (List Token)} {us : List SourceUnit}
    (all : List.Forall₂ (fun tokens u => generate tokens = .ok u) lists us) :
    putStage sink generate lists = putEach sink (us.map SourceUnit.call) := by
  have whole := putStage_append sink all []
  rw [List.append_nil] at whole
  rw [whole]
  exact bind_pure_unit

/-- At a list that fails a stage has put out the units before it, and nothing for it. -/
theorem putStage_of_error {generate : List Token → Except SourceError SourceUnit}
    {before after : List (List Token)} {bad : List Token} {done : List SourceUnit}
    {e : SourceError} (all : List.Forall₂ (fun tokens u => generate tokens = .ok u) before done)
    (failed : generate bad = .error e) :
    putStage sink generate (before ++ bad :: after) =
      putEach sink (done.map SourceUnit.call) >>= fun _ => throw (.source e) := by
  have stopped : putStage sink generate (bad :: after) = throw (.source e) := by
    show ((Put.generated (generate bad) >>= fun u => sink u.name u.text) >>=
      fun _ => putStage sink generate after) = _
    simp only [failed, Put.generated, throw_bind]
  rw [putStage_append sink all, stopped]

theorem putAll_of_error {o : Options} {s : Schema} {e : SourceError} (h : units o s = .error e) :
    putAll o s sink = throw (.source e) := by
  rw [putAll, h]
  simp only [Put.generated, throw_bind]

theorem putAll_of_ok {o : Options} {s : Schema} {us : List SourceUnit} (h : units o s = .ok us) :
    putAll o s sink =
      putEach sink (us.map SourceUnit.call ++ indexCalls o us) >>= fun _ => pure us := by
  rw [putAll, h, putEach_append]
  simp only [Put.generated, pure_bind, forM_units, bind_assoc, indexCalls]
  cases o.moduleIndex with
  | false => simp [putEach_nil]
  | true => simp [putEach_cons, putEach_nil]

/-- One stage after the other makes the calls of all units. -/
theorem stages_of_generated {o : Options} {s : Schema} {header : SourceUnit}
    {types messages : List SourceUnit} (h : Generated o s header types messages) :
    (do putHeader o s sink; putTypes o s sink; putMessages o s sink) =
      putEach sink ((header :: (types ++ messages)).map SourceUnit.call) := by
  have first : putHeader o s sink = sink header.name header.text := by
    simp only [putHeader, h.header, Put.generated, pure_bind]
  rw [first, putTypes_eq, putMessages_eq, putStage_of_forall sink h.types,
    putStage_of_forall sink h.messages, List.map_cons, putEach_cons, List.map_append,
    putEach_append]
  rfl

end Calls

end Flyweight.Source
