import Flyweight.Source.Literal
import Flyweight.Source.Numeral

/- Literals of generated source denote the constants that they are written for.

   A number in decimal digits is read back with whatever stands behind it
   (`readInteger_toString`). So the literal of a constant in an integral type is read as that of
   the constant's integer (`read_literal`) and denotes the integer, whether it stands alone, has
   a suffix or is cast (`literal_denotes`). The constant's text as a pattern denotes it too
   (`pattern?_text`). -/

namespace Flyweight

/-! ## Integers of a constant -/

/-- A constant fits an integral type exactly if it is an integer of the type. -/
theorem Constant.fits_integral_iff {c : Constant} {p : Primitive}
    (integral : p.isIntegral = true) :
    c.fits p = true ↔ ∃ n, c.integer? = some n ∧ p.Holds n := by
  obtain ⟨⟨low, high⟩, range⟩ := Option.isSome_iff_exists.mp
    ((Primitive.isSome_range? p).trans integral)
  have holds (n : Int) : Constant.fits.integerFits n p = true ↔ p.Holds n := by
    rw [p.holds_iff range]
    simp [Constant.fits.integerFits, range]
  cases c with
  | long v => simp [Constant.fits, Constant.integer?, holds]
  | unsignedLong v => simp [Constant.fits, Constant.integer?, holds]
  | double x =>
    cases p with
    | float | double => exact absurd integral (by decide)
    | _ => simp [Constant.fits, Constant.integer?]

/-- The text of a constant that is an integer is the integer. -/
theorem Constant.text_of_integer? {c : Constant} {n : Int} (h : c.integer? = some n) :
    c.text = toString n := by
  cases c with
  | long v =>
    obtain rfl := Option.some.inj h
    rfl
  | unsignedLong v =>
    obtain rfl := Option.some.inj h
    rfl
  | double x => cases h

namespace Source.Numeral

/-! ## Reading -/

/-- Nothing at the front goes on with the number before it. -/
def Stops (cs : List Char) : Prop := ∀ c ∈ cs.head?, c.isDigit = false

theorem stops_nil : Stops [] := nofun

theorem readNatural_toDigits (n : Nat) {rest : List Char} (stops : Stops rest) :
    readNatural (Nat.toDigits 10 n ++ rest) = some (n, rest) := by
  have digits : ∀ c ∈ Nat.toDigits 10 n, c.isDigit = true :=
    fun c h => Nat.isDigit_of_mem_toDigits (by decide) (by decide) h
  have ends : rest.takeWhile Char.isDigit = [] ∧ rest.dropWhile Char.isDigit = rest := by
    cases rest with
    | nil => exact ⟨rfl, rfl⟩
    | cons c rest =>
      have other : ¬ c.isDigit = true := by simp [stops c rfl]
      exact ⟨List.takeWhile_cons_of_neg other, List.dropWhile_cons_of_neg other⟩
  have front : (Nat.toDigits 10 n ++ rest).takeWhile Char.isDigit = Nat.toDigits 10 n := by
    rw [List.takeWhile_append_of_pos digits, ends.1, List.append_nil]
  have behind : (Nat.toDigits 10 n ++ rest).dropWhile Char.isDigit = rest := by
    rw [List.dropWhile_append_of_pos digits, ends.2]
  have back : Nat.ofDigitChars 10 (Nat.toDigits 10 n) 0 = n := Nat.ofDigitChars_ten_toDigits
  unfold readNatural
  split
  · rename_i none_
    exact absurd (front.symm.trans none_) Nat.toDigits_ne_nil
  · rw [front, back, behind]

theorem toList_toString_negSucc (m : Nat) :
    (toString (Int.negSucc m)).toList = '-' :: Nat.toDigits 10 (m + 1) := by
  show ("-" ++ Nat.repr (m + 1)).toList = _
  rw [String.toList_append, Nat.repr_eq_ofList_toDigits]
  simp only [String.toList_ofList]
  rfl

theorem toList_toString_ofNat (m : Nat) :
    (toString (Int.ofNat m)).toList = Nat.toDigits 10 m := by
  show (Nat.repr m).toList = _
  rw [Nat.repr_eq_ofList_toDigits, String.toList_ofList]

/-- The text of a natural number starts with a digit. -/
theorem toDigits_head (m : Nat) : ∃ c cs, Nat.toDigits 10 m = c :: cs ∧ c.isDigit = true := by
  cases shape : Nat.toDigits 10 m with
  | nil => exact absurd shape Nat.toDigits_ne_nil
  | cons c cs =>
    exact ⟨c, cs, rfl,
      Nat.isDigit_of_mem_toDigits (by decide) (by decide) (shape ▸ List.mem_cons_self)⟩

theorem readInteger_unsigned {c : Char} (unsigned : c ≠ '-') (cs : List Char) :
    readInteger (c :: cs) = (readNatural (c :: cs)).map fun (n, rest) => ((n : Int), rest) := by
  unfold readInteger
  split
  · rename_i same
    exact absurd (List.cons.inj same).1 unsigned
  · rfl

/-- An integer is read back off the front of its text and what stands behind it. -/
theorem readInteger_toString (n : Int) {rest : List Char} (stops : Stops rest) :
    readInteger ((toString n).toList ++ rest) = some (n, rest) := by
  cases n with
  | ofNat m =>
    obtain ⟨c, cs, shape, digit⟩ := toDigits_head m
    have unsigned : c ≠ '-' := by
      rintro rfl
      exact absurd digit (by decide)
    have read := readNatural_toDigits m stops
    rw [toList_toString_ofNat]
    rw [shape, List.cons_append] at read ⊢
    rw [readInteger_unsigned unsigned, read]
    rfl
  | negSucc m =>
    rw [toList_toString_negSucc, List.cons_append, readInteger, readNatural_toDigits (m + 1) stops]
    rfl

/-- The text of an integer does not start with a parenthesis. -/
theorem toString_front (n : Int) : ∃ c cs, (toString n).toList = c :: cs ∧ c ≠ '(' := by
  cases n with
  | ofNat m =>
    obtain ⟨c, cs, shape, digit⟩ := toDigits_head m
    refine ⟨c, cs, by rw [toList_toString_ofNat, shape], ?_⟩
    rintro rfl
    exact absurd digit (by decide)
  | negSucc m => exact ⟨'-', _, toList_toString_negSucc m, by decide⟩

theorem pattern?_toString (n : Int) : pattern? (toString n) = some n := by
  have read : readInteger ((toString n).toList ++ []) = some (n, []) :=
    readInteger_toString n stops_nil
  rw [List.append_nil] at read
  simp only [pattern?, read]

/-- A number without parentheses is read with its suffix. -/
theorem read_bare (n : Int) {suffix : String} (stops : Stops suffix.toList) :
    read (toString n ++ suffix) =
      some (if suffix.toList.isEmpty then plain n else suffixed n suffix) := by
  obtain ⟨c, cs, shape, bare⟩ := toString_front n
  have found := readInteger_toString n stops
  rw [shape, List.cons_append] at found
  unfold read
  rw [String.toList_append, shape, List.cons_append]
  split
  · rename_i same
    exact absurd (List.cons.inj same).1 bare
  · rw [found]
    simp only [Option.bind_eq_bind, Option.bind_some, Option.pure_def, String.ofList_toList]

/-- A number in parentheses is read with the type that it is cast to. -/
theorem read_cast (n : Int) (name : String) :
    read ("(" ++ toString n ++ " as " ++ name ++ ")") = some (cast n name) := by
  have text : ("(" ++ toString n ++ " as " ++ name ++ ")").toList =
      '(' :: ((toString n).toList ++ (' ' :: 'a' :: 's' :: ' ' :: (name.toList ++ [')']))) := by
    simp [String.toList_append]
  have stops : Stops (' ' :: 'a' :: 's' :: ' ' :: (name.toList ++ [')'])) := by
    intro c mem
    obtain rfl := Option.some.inj mem
    decide
  have type : readCast (' ' :: 'a' :: 's' :: ' ' :: (name.toList ++ [')'])) = some name := by
    simp [readCast]
  simp only [read, text, readInteger_toString n stops, type, Option.bind_eq_bind,
    Option.bind_some, Option.pure_def]

/-! ## What is denoted -/

/-- The literal of an integer in its type denotes the integer. -/
theorem value?_ofType {p : Primitive} {n : Int} (h : p.Holds n) : value? (ofType p n) = some n := by
  have holds := h
  obtain ⟨low, high, range, least, most⟩ := holds
  obtain ⟨q, found, same⟩ := Primitive.ofRustType?_rustType
    ((Primitive.isSome_range? p).symm.trans (by rw [range]; rfl))
  have suffixed_ : value? (suffixed n p.rustType) = some n := by
    simp only [value?, found, Option.bind_some, same, range, if_pos (And.intro least most)]
  have cast_ : value? (cast n p.rustType) = some n := by
    have wrapped : q.wrap n = p.wrap n := by simp only [Primitive.wrap, same]
    simp only [value?, found, Option.map_some, wrapped, Primitive.wrap_of_holds h]
  cases p with
  | int32 | uint32 => rfl
  | int64 | uint64 => exact suffixed_
  | _ => exact cast_

/-- The pattern of a constant that is an integer matches the integer. -/
theorem pattern?_text {c : Constant} {n : Int} (h : c.integer? = some n) :
    pattern? c.text = some n := by
  rw [Constant.text_of_integer? h, pattern?_toString]

/-- The literal of a constant in an integral type is that of an integer of the type. -/
theorem read_literal {c : Constant} {p : Primitive} {name text : String}
    (integral : p.isIntegral = true) (h : c.literal name p = .ok text) :
    ∃ n, c.integer? = some n ∧ p.Holds n ∧ read text = some (ofType p n) := by
  unfold Constant.literal at h
  split at h
  · rename_i fits
    obtain ⟨n, integer, holds⟩ := (Constant.fits_integral_iff integral).mp fits
    refine ⟨n, integer, holds, ?_⟩
    rw [Constant.text_of_integer? integer] at h
    obtain rfl := Except.ok.inj h
    have suffixed_ (letter : p.rustType.toList.isEmpty = false) (stops : Stops p.rustType.toList) :
        read (toString n ++ p.rustType) = some (suffixed n p.rustType) := by
      rw [read_bare n stops, letter]
      rfl
    have plain_ : read (toString n) = some (plain n) := by
      have found : read (toString n ++ "") = some (plain n) := read_bare n stops_nil
      rwa [String.append_empty] at found
    cases p with
    | char | int8 | int16 | uint8 | uint16 => exact read_cast n _
    | int32 | uint32 => exact plain_
    | int64 | uint64 => exact suffixed_ rfl (by intro c mem; obtain rfl := Option.some.inj mem; rfl)
    | float | double => exact absurd integral (by decide)
  · cases h

/-- The literal of a constant in an integral type denotes the constant, which is an integer
of the type. -/
theorem literal_denotes {c : Constant} {p : Primitive} {name text : String}
    (integral : p.isIntegral = true) (h : c.literal name p = .ok text) :
    ∃ n, c.integer? = some n ∧ p.Holds n ∧ valueOf? text = some n := by
  obtain ⟨n, integer, holds, reads⟩ := read_literal integral h
  exact ⟨n, integer, holds, by rw [valueOf?, reads, Option.bind_some, value?_ofType holds]⟩

end Source.Numeral

end Flyweight
