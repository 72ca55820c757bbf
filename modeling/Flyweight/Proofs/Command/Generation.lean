import Flyweight.Command
import Flyweight.Proofs.Command.Outcome
import Flyweight.Proofs.Source.Output

/- Generation is all or nothing.

   The units of a schema are generated before the first of them is put out: a schema with a
   list that fails reaches no sink, and the command for generating source then leaves the
   files as they were. A schema without such a list reaches a sink as its units in order,
   whether they are put out at once or stage by stage. -/

namespace Flyweight.Command

open Source

/-! ## Operations on files that are only looked at -/

theorem outcome_read (path : String) (t : FileTree) :
    outcome (FileTree.storage.read path) t = (t.read path, t) := by
  simp only [FileTree.storage, outcome_bind, outcome_get]
  cases t.read path with
  | ok text => rfl
  | error e => rfl

/-- Loading a schema leaves the files as they are. -/
theorem outcome_load (path : String) (t : FileTree) :
    ∃ result, outcome (Document.load FileTree.storage path) t = (result, t) := by
  rw [Document.load, outcome_bind, outcome_adapt, outcome_read]
  cases t.read path with
  | error e => exact ⟨_, rfl⟩
  | ok text =>
    simp only
    split
    · exact ⟨_, rfl⟩
    · split
      · exact ⟨_, rfl⟩
      · exact ⟨_, rfl⟩

/-! ## The command -/

/-- The choices that the command makes for the generator. -/
def sourceOptions (g : GenerateOptions) : Options :=
  { codecPath := g.codecPath, package := g.package, moduleIndex := !g.bundle }

/-- What is loaded from the schema's file. -/
def loaded (g : GenerateOptions) (t : FileTree) : Except Document.LoadError Schema :=
  (outcome (Document.load FileTree.storage g.schema) t).1

/-- Nothing can be generated: no schema is loaded, or it is not nested as it should be, or
one of its lists fails. -/
inductive Unfit (g : GenerateOptions) (t : FileTree) : Prop where
  | load {e : Document.LoadError} (failed : loaded g t = .error e) : Unfit g t
  | nesting {s : Schema} {e : SpanError} (read : loaded g t = .ok s)
    (failed : s.checkNesting = .error e) : Unfit g t
  | source {s : Schema} {e : SourceError} (read : loaded g t = .ok s)
    (failed : Fails (sourceOptions g) s e) : Unfit g t

theorem runGenerate_of_unfit {g : GenerateOptions} {t : FileTree} (h : Unfit g t) :
    ∃ report, outcome (runGenerate FileTree.storage g) t = (.error report, t) := by
  obtain ⟨result, read⟩ := outcome_load g.schema t
  have kept : outcome (Document.load FileTree.storage g.schema) t = (loaded g t, t) := by
    rw [loaded, read]
  rw [runGenerate, outcome_bind, loadSchema, outcome_adapt, kept]
  cases hl : loaded g t with
  | error e => exact ⟨_, rfl⟩
  | ok s =>
    simp only
    cases hn : s.checkNesting with
    | error e => exact ⟨_, rfl⟩
    | ok _ =>
      -- What is left is a list that fails, before anything is written in either mode.
      obtain ⟨e, failed⟩ : ∃ e, Fails (sourceOptions g) s e := by
        cases h with
        | load failed => simp [hl] at failed
        | @nesting s' e read failed =>
          obtain rfl : s = s' := by simpa [hl] using read
          simp [hn] at failed
        | @source s' e read failed =>
          obtain rfl : s = s' := by simpa [hl] using read
          exact ⟨e, failed⟩
      obtain ⟨e', -, failed'⟩ := units_of_fails failed
      show ∃ report, outcome (if g.bundle then writeBundle FileTree.storage g (sourceOptions g) s
        else writeUnits FileTree.storage g (sourceOptions g) s) t = (.error report, t)
      cases g.bundle with
      | true =>
        have unbundled : bundleOf (sourceOptions g) s = .error e' := by
          rw [bundleOf, failed']
          rfl
        simp only [if_true, writeBundle, unbundled]
        exact ⟨_, rfl⟩
      | false =>
        simp only [Bool.false_eq_true, if_false, writeUnits]
        rw [outcome_bind, outcome_adapt, putAll_of_error _ failed', outcome_throw]
        exact ⟨_, rfl⟩

theorem run_of_unfit {g : GenerateOptions} {t : FileTree} (h : Unfit g t) :
    ∃ report, (run FileTree.storage (.generate g)).run t = (.failed report, t) := by
  obtain ⟨report, failed⟩ := runGenerate_of_unfit h
  refine ⟨report, ?_⟩
  have stopped : (runGenerate FileTree.storage g).run.run t = (.error report, t) := failed
  rw [run, StateT.run_bind, stopped]
  rfl

/-! ## All or nothing -/

/-- A schema with a list that fails is put out by a plain failure, with the error of such a
list, and the command leaves the files as they are when it finds nothing to write. If no list
fails, the units in order are what all the ways of putting them out hand over; a stage that
comes to a list that fails has handed over the units before it. -/
theorem generation_allOrNothing :
    (∀ (o : Options) (s : Schema) (m : Type → Type) [Monad m] [LawfulMonad m] (sink : Sink m),
      (∀ e, Fails o s e → ∃ e', Fails o s e' ∧ putAll o s sink = throw (.source e')) ∧
      (∀ header types messages, Generated o s header types messages →
        let us := header :: (types ++ messages)
        units o s = .ok us ∧
        (putAll o s sink = do
          putEach sink (us.map SourceUnit.call ++ indexCalls o us)
          return us) ∧
        (do putHeader o s sink; putTypes o s sink; putMessages o s sink) =
          putEach sink (us.map SourceUnit.call)) ∧
      (∀ before bad after done e, s.types = before ++ bad :: after →
        List.Forall₂ (fun tokens u => typeUnit o s tokens = .ok u) before done →
        typeUnit o s bad = .error e →
        putTypes o s sink = do
          putEach sink (done.map SourceUnit.call)
          throw (.source e)) ∧
      (∀ before bad after done e, s.messages = before ++ bad :: after →
        List.Forall₂ (fun tokens u => messageUnit o s tokens = .ok u) before done →
        messageUnit o s bad = .error e →
        putMessages o s sink = do
          putEach sink (done.map SourceUnit.call)
          throw (.source e))) ∧
    ∀ (g : GenerateOptions) (t : FileTree), Unfit g t →
      ∃ report, (run FileTree.storage (.generate g)).run t = (.failed report, t) := by
  refine ⟨?_, fun g t unfit => run_of_unfit unfit⟩
  intro o s m _ _ sink
  refine ⟨?_, ?_, ?_, ?_⟩
  · intro e fails
    obtain ⟨e', fails', failed⟩ := units_of_fails fails
    exact ⟨e', fails', putAll_of_error sink failed⟩
  · intro header types messages generated us
    have whole : units o s = .ok us := units_ok_iff.mpr ⟨header, types, messages, generated, rfl⟩
    exact ⟨whole, putAll_of_ok sink whole, stages_of_generated sink generated⟩
  · intro before bad after done e listed all failed
    rw [putTypes_eq, listed]
    exact putStage_of_error sink all failed
  · intro before bad after done e listed all failed
    rw [putMessages_eq, listed]
    exact putStage_of_error sink all failed

/-- A schema with a type and a message that fail behind a type that does not, the same schema
without them, and a file that holds a schema without a header. -/
theorem generation_allOrNothing_small :
    let header : List Token :=
      [{ signal := .beginComposite, name := "h" }, { signal := .endComposite, name := "h" }]
    let sound : Schema := { package := "p", header, types := [header] }
    let broken : Schema := { package := "p", header, types := [header, []], messages := [[]] }
    let log : Sink (StateM (List (String × String))) := fun name text => modify (· ++ [(name, text)])
    let file : FileTree := ⟨[(["a.json"], .file "\x7b\"package\":\"p\",\"header\":[]\x7d")]⟩
    (∃ e, (putAll {} broken log).run.run [] = (.error (.source e), [])) ∧
    (∃ u, (putTypes {} broken log).run.run [] =
      (.error (.source (.emptyTokenList "type")), [SourceUnit.call u])) ∧
    (putMessages {} broken log).run.run [] =
      (.error (.source (.emptyTokenList "message")), []) ∧
    (∃ u v, (putAll {} sound log).run.run [] =
      (.ok [u, v], [u.call, v.call] ++ indexCalls {} [u, v])) ∧
    ∃ report, (run FileTree.storage (.generate { schema := "a.json" })).run file =
      (.failed report, file) := by
  intro header sound broken log file
  obtain ⟨modes, command⟩ := generation_allOrNothing
  have composite (name : String) : FixedFlyweight.ofComposite name header = .ok ⟨name, 0, []⟩ := by
    have members (context : String) : Member.ofComposite context [] = .ok [] := by
      rw [Member.ofComposite, Member.ofCompositeFrom]
    have inner : interior header = .ok [] := rfl
    simp only [FixedFlyweight.ofComposite, inner]
    simp only [header, opening, members, bind, Except.bind]
    rfl
  have head (s : Schema) (h : s.header = header) : ∃ u, headerUnit {} s = .ok u := by
    rw [headerUnit, h]
    show ∃ u, Except.map _ (Except.map _ (FixedFlyweight.ofComposite messageHeaderName header)) = _
    rw [composite]
    exact ⟨_, rfl⟩
  have type (s : Schema) : ∃ u, typeUnit {} s header = .ok u := by
    show ∃ u, Except.map _ (Except.map _ (FixedFlyweight.ofComposite (Identifier.typeName "h")
      header)) = _
    rw [composite]
    exact ⟨_, rfl⟩
  obtain ⟨u, hu⟩ := head sound rfl
  obtain ⟨v, hv⟩ := type sound
  obtain ⟨w, hw⟩ := type broken
  obtain ⟨failing, -, types, messages⟩ := modes {} broken _ log
  have listed : ([] : List Token) ∈ broken.types := by simp [broken]
  obtain ⟨e, -, stopped⟩ := failing _ (.type listed rfl)
  refine ⟨⟨e, ?_⟩, ⟨w, ?_⟩, ?_, ⟨u, v, ?_⟩, ?_⟩
  · rw [stopped]
    rfl
  · rw [types [header] [] [] [w] _ rfl (.cons hw .nil) rfl]
    rfl
  · rw [messages [] [] [] [] _ rfl .nil rfl]
    rfl
  · rw [((modes {} sound _ log).2.1 u [v] [] ⟨hu, .cons hv .nil, .nil⟩).2.1]
    rfl
  · have loads : loaded { schema := "a.json" } file = .ok { package := "p", header := [] } := by
      decide +kernel
    exact command _ _ (.source loads (.header rfl))

end Flyweight.Command
