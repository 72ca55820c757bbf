import Flyweight.Proofs.Wire.History

/- The choices of one word, through any history.

   To put a choice is to load the word, to set or clear one bit of it, and to store the word
   where it was. On a word inside the memory a history of puts is therefore one write of one
   word (`after_choiceCalls`), in which each bit has the value that was put last
   (`Word.testBit_withBits`). So

     1. a choice is what it was last put to, or what it was before all puts;
     2. nothing but the word is written, and two puts of different choices can be made in
        either order;
     3. a word that is not inside the memory is not written in part. -/

namespace Flyweight.Wire

/-! ## Words by their bits -/

namespace Word
variable {α : Type} [Word α]

/-- The number of the bits of a word. -/
abbrev bits (α : Type) [Word α] : Nat := 8 * Scalar.width α

/-- A word has no bits but its own. -/
theorem testBit_past (word : α) {i : Nat} (past : bits α ≤ i) : testBit word i = false := by
  have small := Scalar.code_lt word
  rw [Bytes.values_eq_shiftLeft, Nat.shiftLeft_eq, Nat.one_mul] at small
  apply Nat.testBit_lt_two_pow
  apply Nat.lt_of_lt_of_le small
  exact Nat.pow_le_pow_right (by decide) past

/-- Words with the same bits are the same. -/
theorem ext_bits {word other : α}
    (same : ∀ bit : Fin (bits α), testBit word bit = testBit other bit) : word = other := by
  have codes : Scalar.code word = Scalar.code other := by
    apply Nat.eq_of_testBit_eq
    intro i
    by_cases inside : i < bits α
    · exact same ⟨i, inside⟩
    · have past : bits α ≤ i := by omega
      exact (testBit_past word past).trans (testBit_past other past).symm
  rw [← Scalar.ofCode_code word, codes, Scalar.ofCode_code]

/-- Different bits can be given their values in either order. -/
theorem withBit_comm (word : α) {bit other : Fin (bits α)} (differ : bit ≠ other)
    (value value' : Bool) :
    withBit (withBit word bit value) other value' =
      withBit (withBit word other value') bit value := by
  have apart : bit.val ≠ other.val := Fin.val_ne_of_ne differ
  apply ext_bits
  intro b
  simp only [testBit_withBit _ bit.isLt, testBit_withBit _ other.isLt]
  by_cases first : b.val = bit.val
  · have second : ¬ b.val = other.val := by omega
    simp only [if_pos first, if_neg second]
  · simp only [if_neg first]

/-- The number with a bit set by a mask, or cleared by the mask of all the other bits. -/
def masked (α : Type) [Word α] (code bit : Nat) (value : Bool) : Nat :=
  if value then code ||| 1 <<< bit else code &&& (greatest α ^^^ 1 <<< bit)

theorem code_withBit (word : α) (bit : Fin (bits α)) (value : Bool) :
    Scalar.code (withBit word bit value) = masked α (Scalar.code word) bit value := by
  have all : greatest α = 1 <<< bits α - 1 := by rw [greatest, Bytes.values_eq_shiftLeft]
  apply Nat.eq_of_testBit_eq
  intro i
  have assigned : (Scalar.code (withBit word bit value)).testBit i =
      if i = bit then value else testBit word i := testBit_withBit word bit.isLt value i
  simp only [assigned, masked, all, Nat.shiftLeft_eq, Nat.one_mul]
  cases value with
  | true =>
    rw [if_pos rfl, Nat.testBit_or, Nat.testBit_two_pow]
    by_cases same : i = bit
    · simp [same]
    · simp [same, Ne.symm same, testBit]
  | false =>
    rw [if_neg Bool.false_ne_true, Nat.testBit_and, Nat.testBit_xor, Nat.testBit_two_pow_sub_one,
      Nat.testBit_two_pow]
    by_cases same : i = bit
    · simp [same]
    · by_cases inside : i < bits α
      · simp [same, Ne.symm same, inside, testBit]
      · have none_ : (Scalar.code word).testBit i = false := testBit_past word (by omega)
        simp [same, none_, testBit]

/-! ## Several bits, one after the other -/

/-- Bits of a word, each with the value that it is put to. -/
abbrev Puts (α : Type) [Word α] : Type := List (Fin (bits α) × Bool)

/-- The word with one bit after the other put to its value. -/
def withBits (word : α) (puts : Puts α) : α :=
  puts.foldl (fun word put => withBit word put.1 put.2) word

/-- What the bit was put to last. -/
def lastPut? (puts : Puts α) (bit : Fin (bits α)) : Option Bool := puts.reverse.lookup bit

/-- A bit has the value that it was put to last, or the one that it had before. -/
theorem testBit_withBits (word : α) (puts : Puts α) (bit : Fin (bits α)) :
    testBit (withBits word puts) bit = (lastPut? puts bit).getD (testBit word bit) := by
  induction puts generalizing word with
  | nil => rfl
  | cons put rest ih =>
    obtain ⟨first, value⟩ := put
    have later : lastPut? ((first, value) :: rest) bit =
        (lastPut? rest bit).or ([(first, value)].lookup bit) := by
      rw [lastPut?, List.reverse_cons, List.lookup_append]
      rfl
    have step : testBit (withBits word ((first, value) :: rest)) bit =
        (lastPut? rest bit).getD (testBit (withBit word first value) bit) := ih _
    rw [step, later, testBit_withBit _ first.isLt]
    cases lastPut? rest bit with
    | some value => rfl
    | none =>
      by_cases same : bit = first
      · simp [same]
      · have other : ¬ bit.val = first.val := fun h => same (Fin.ext h)
        simp [other, List.lookup_cons, beq_eq_false_iff_ne.mpr same]

theorem code_withBits (word : α) (puts : Puts α) :
    Scalar.code (withBits word puts) =
      puts.foldl (fun code put => masked α code put.1 put.2) (Scalar.code word) := by
  induction puts generalizing word with
  | nil => rfl
  | cons put rest ih =>
    rw [List.foldl_cons, ← code_withBit]
    exact ih _

end Word

namespace Memory

/-! ## Puts of choices -/

/-- The calls that put choices of the word at `offset`, one after the other. -/
def choiceCalls {α : Type} [Word α] (offset : Nat) (order : ByteOrder) (puts : Word.Puts α) :
    List Call :=
  puts.map fun put => .choice α offset order put.1 put.1.isLt put.2

section Choices
variable {α : Type} [Word α] {offset : Nat} {order : ByteOrder} {m : Memory}

/-- The word at `offset`. -/
def wordAt (α : Type) [Word α] (offset : Nat) (order : ByteOrder) (m : Memory) : α :=
  Scalar.decode order (Region.read m offset (Scalar.width α))

/-- The memory with another word at `offset`. -/
def withWord (offset : Nat) (order : ByteOrder) (m : Memory) (word : α) : Memory :=
  Region.write m offset (Scalar.encode order word)

/-- A choice is put where the word is inside the memory, and the word is loaded and stored in
the same place. -/
theorem outcome_setChoice (bit : Nat) (value : Bool) :
    (setChoice α offset order bit value).outcome m =
      if offset + Scalar.width α ≤ m.length then
        (.ok (), withWord offset order m (Word.withBit (wordAt α offset order m) bit value))
      else (.error (.bufferOverflow offset (Scalar.width α) m.length), m) := by
  rw [setChoice, Access.outcome_bind, outcome_load]
  by_cases fits : offset + Scalar.width α ≤ m.length
  · simp only [if_pos fits, outcome_store]
    rfl
  · simp only [if_neg fits]

section Inside
variable (fits : offset + Scalar.width α ≤ m.length)
include fits

theorem length_withWord (word : α) : (withWord offset order m word).length = m.length := by
  apply Region.length_write
  rwa [Scalar.length_encode]

theorem wordAt_withWord (word : α) : wordAt α offset order (withWord offset order m word) = word := by
  have width := Scalar.length_encode order word
  have fits' : offset + (Scalar.encode order word).length ≤ m.length := by rwa [width]
  have back := Region.read_write_self fits'
  rw [width] at back
  rw [wordAt, withWord, back, Scalar.decode_encode]

/-- Of two words in one place the second stays. -/
theorem withWord_withWord (first second : α) :
    withWord offset order (withWord offset order m first) second = withWord offset order m second := by
  apply Region.write_write
  · rw [Scalar.length_encode, Scalar.length_encode]
  · rwa [Scalar.length_encode]

/-- The word that is there already. -/
theorem withWord_wordAt : withWord offset order m (wordAt α offset order m) = m := by
  rw [withWord, wordAt, Scalar.encode_decode order (Region.length_read fits)]
  exact Region.write_read_self fits

theorem getElem?_withWord (word : α) {i : Nat} (outside : i < offset ∨ offset + Scalar.width α ≤ i) :
    (withWord offset order m word)[i]? = m[i]? := by
  have width := Scalar.length_encode order word
  rw [withWord, Region.getElem?_write (by rwa [width]), width, if_neg (by omega)]

/-- A history of puts is one write of the word with all of them. -/
theorem after_choiceCalls (puts : Word.Puts α) :
    after (choiceCalls offset order puts) m =
      withWord offset order m (Word.withBits (wordAt α offset order m) puts) := by
  induction puts generalizing m with
  | nil => exact (withWord_wordAt fits).symm
  | cons put rest ih =>
    let word : α := Word.withBit (wordAt α offset order m) put.1 put.2
    have first : ((setChoice α offset order put.1 put.2).outcome m).2 = withWord offset order m word := by
      rw [outcome_setChoice, if_pos fits]
    have fits' : offset + Scalar.width α ≤ (withWord offset order m word).length := by
      rwa [length_withWord fits]
    show after (choiceCalls offset order rest) ((setChoice α offset order put.1 put.2).outcome m).2 = _
    rw [first, ih fits', withWord_withWord fits, wordAt_withWord fits]
    rfl

end Inside

/-- Two puts of different choices can be made in either order, also where they fail. -/
theorem outcome_setChoice_swap {bit other : Fin (Word.bits α)} (differ : bit ≠ other)
    (value value' : Bool) :
    (do setChoice α offset order bit value
        setChoice α offset order other value' : Access Memory Unit).outcome m =
      (do setChoice α offset order other value'
          setChoice α offset order bit value : Access Memory Unit).outcome m := by
  simp only [Access.outcome_bind, outcome_setChoice]
  by_cases fits : offset + Scalar.width α ≤ m.length
  · simp only [if_pos fits, length_withWord fits, wordAt_withWord fits, withWord_withWord fits,
      Word.withBit_comm _ differ]
  · simp only [if_neg fits]

end Choices

/-- What a history of puts makes of the word at `offset`, which was `original`. -/
structure ChoicesAfter {α : Type} [Word α] (offset : Nat) (order : ByteOrder) (m : Memory)
    (original : α) (puts : Word.Puts α) : Prop where
  /-- Each put succeeds, and the next starts from the memory that it leaves. -/
  succeed : ∀ before put later, puts = before ++ put :: later →
    (setChoice α offset order put.1 put.2).outcome (after (choiceCalls offset order before) m) =
      (.ok (), after (choiceCalls offset order (before ++ [put])) m)
  /-- A choice is what it was put to last, or what it was. -/
  tested : ∀ bit : Fin (Word.bits α),
    (testChoice α offset order bit).outcome (after (choiceCalls offset order puts) m) =
      (.ok ((Word.lastPut? puts bit).getD (Word.testBit original bit)),
        after (choiceCalls offset order puts) m)
  /-- The word is the one with these bits, each of which was set by its mask or masked out. -/
  loaded : ∃ word : α,
    (load offset order : Access Memory α).outcome (after (choiceCalls offset order puts) m) =
      (.ok word, after (choiceCalls offset order puts) m) ∧
    (∀ other : α, other = word ↔ ∀ bit : Fin (Word.bits α),
      Word.testBit other bit = (Word.lastPut? puts bit).getD (Word.testBit original bit)) ∧
    Scalar.code word =
      puts.foldl (fun code put => Word.masked α code put.1 put.2) (Scalar.code original)
  length_same : (after (choiceCalls offset order puts) m).length = m.length
  /-- Nothing outside the word has changed. -/
  outside : ∀ i, i < offset ∨ offset + Scalar.width α ≤ i →
    (after (choiceCalls offset order puts) m)[i]? = m[i]?

theorem choicesAfter {α : Type} [Word α] {offset : Nat} {order : ByteOrder} {m : Memory}
    (fits : offset + Scalar.width α ≤ m.length) (puts : Word.Puts α) :
    ChoicesAfter offset order m (wordAt α offset order m) puts := by
  let original : α := wordAt α offset order m
  let word : α := Word.withBits original puts
  have history : after (choiceCalls offset order puts) m = withWord offset order m word :=
    after_choiceCalls fits puts
  have size : (withWord offset order m word).length = m.length := length_withWord fits word
  have loaded : (load offset order : Access Memory α).outcome (withWord offset order m word) =
      (.ok word, withWord offset order m word) := by
    have there : wordAt α offset order (withWord offset order m word) = word :=
      wordAt_withWord fits word
    rw [wordAt] at there
    rw [outcome_load, size, if_pos fits, there]
  have values := Word.testBit_withBits original puts
  constructor
  case succeed =>
    intro before put later _
    have reached : offset + Scalar.width α ≤ (after (choiceCalls offset order before) m).length := by
      rwa [length_after]
    have next : after (choiceCalls offset order (before ++ [put])) m =
        ((setChoice α offset order put.1 put.2).outcome
          (after (choiceCalls offset order before) m)).2 := by
      rw [choiceCalls, List.map_append, after_append]
      rfl
    rw [next, outcome_setChoice, if_pos reached]
  all_goals rw [history]
  case tested =>
    intro bit
    rw [testChoice, Access.outcome_bind, loaded, ← values bit]
    rfl
  case loaded =>
    refine ⟨word, loaded, fun other => ⟨fun same bit => ?_, fun same => ?_⟩,
      Word.code_withBits original puts⟩
    · rw [same, values]
    · apply Word.ext_bits
      intro bit
      rw [same, values]
  case length_same => exact size
  case outside =>
    intro i outside
    exact getElem?_withWord fits word outside

/-- Choices of a word are independent through any history of puts, where the word is inside the
memory. Two puts of different choices can be made in either order. On a word that is not inside
the memory every put fails and changes nothing. -/
theorem choices_independent (α : Type) [Word α] (offset : Nat) (order : ByteOrder) (m : Memory) :
    (offset + Scalar.width α ≤ m.length →
      ∃ original : α, (load offset order : Access Memory α).outcome m = (.ok original, m) ∧
        ∀ puts : Word.Puts α, ChoicesAfter offset order m original puts) ∧
    (∀ bit other : Fin (Word.bits α), bit ≠ other → ∀ value value' : Bool,
      (do setChoice α offset order bit value
          setChoice α offset order other value' : Access Memory Unit).outcome m =
        (do setChoice α offset order other value'
            setChoice α offset order bit value : Access Memory Unit).outcome m) ∧
    (¬ offset + Scalar.width α ≤ m.length → ∀ (bit : Fin (Word.bits α)) (value : Bool),
      (setChoice α offset order bit value).outcome m =
        (.error (.bufferOverflow offset (Scalar.width α) m.length), m)) := by
  refine ⟨fun fits => ?_, fun bit other differ value value' => ?_, fun past bit value => ?_⟩
  · refine ⟨wordAt α offset order m, ?_, choicesAfter fits⟩
    rw [outcome_load, if_pos fits]
    rfl
  · exact outcome_setChoice_swap differ value value'
  · rw [outcome_setChoice, if_neg past]

/-- Three puts on a word of two bytes, two of them of one choice. -/
theorem choices_independent_short :
    let m : Memory := [255, 0x12, 0x34, 255]
    let puts : Word.Puts UInt16 := [(0, true), (15, true), (0, false)]
    ChoicesAfter 1 .bigEndian m (0x1234 : UInt16) puts ∧
    after (choiceCalls 1 .bigEndian puts) m = [255, 0x92, 0x34, 255] ∧
    (setChoice UInt16 3 .bigEndian 0 true).outcome m = (.error (.bufferOverflow 3 2 4), m) := by
  intro m puts
  obtain ⟨original, loaded, runs⟩ := (choices_independent UInt16 1 .bigEndian m).1 (by decide)
  have same : original = 0x1234 := by
    have there : (load 1 .bigEndian : Access Memory UInt16).outcome m = (.ok 0x1234, m) := rfl
    rw [there] at loaded
    cases loaded
    rfl
  have refused := (choices_independent UInt16 3 .bigEndian m).2.2 (by decide) (0 : Fin 16) true
  exact ⟨same ▸ runs puts, by decide, refused⟩

end Memory
end Flyweight.Wire
