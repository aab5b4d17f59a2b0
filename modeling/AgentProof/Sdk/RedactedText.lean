import AgentProof.Sdk.Redaction
import Mathlib.Data.Bool.AllAny

/-!
# What redacted text shows

Keys are printed as they are, and the pattern for loose keys takes a string apart
at word boundaries.  So a printed text shows `0x` and 64 hex digits exactly if some
key that is reached holds them, or some string that is reached holds them other than
as a word of their own; a control character whose escape ends in `0` will do for
the `0`.  What is stored under a secret key is not printed at all.
-/

namespace AgentProof

namespace Sdk

namespace Redaction

open Places

/-- `0x` followed by 64 or more hex digits, anywhere in the text. -/
def ShowsKey (t : Units) : Prop :=
  ∃ digits : Units, 64 ≤ digits.length ∧ (∀ d ∈ digits, isHexUnit d = true) ∧
    48 :: 120 :: digits <:+: t

/-- A unit that is printed as `0`, or as an escape that ends in `0`. -/
def WritesZero (before : Option UInt16) (c : UInt16) (next : Option UInt16) : Prop :=
  c = 48 ∨ (c < 32 ∨ isLone before c next = true) ∧ c.toNat % 16 = 0

/-- At this place of a string, `0x` and 64 hex digits are printed. -/
def WritesKey (before : Option UInt16) (c : UInt16) (rest : Units) : Prop :=
  WritesZero before c rest.head? ∧ HexTail rest

/-- At this place they are not a word of their own. -/
def WritesLoose (before : Option UInt16) (c : UInt16) (rest : Units) : Prop :=
  WritesKey before c rest ∧ ¬ HexKey before c rest

instance (before : Option UInt16) (c : UInt16) (next : Option UInt16) :
    Decidable (WritesZero before c next) :=
  inferInstanceAs (Decidable (_ ∨ (_ ∨ _) ∧ _))

instance (before : Option UInt16) (c : UInt16) (rest : Units) :
    Decidable (WritesKey before c rest) :=
  inferInstanceAs (Decidable (_ ∧ _))

instance (before : Option UInt16) (c : UInt16) (rest : Units) :
    Decidable (WritesLoose before c rest) :=
  inferInstanceAs (Decidable (_ ∧ _))

/-- A text of a value that is printed: a key of an object, or a string. -/
inductive Piece
  | key (key : Units)
  | text (s : Units)

/-- What of a value at some depth is printed. -/
inductive Shows : Nat → LogValue → Piece → Prop
  | text {depth : Nat} {s : Units} (within : depth ≤ 6) : Shows depth (.string s) (.text s)
  | item {depth : Nat} {items : List LogValue} {item : LogValue} {piece : Piece}
      (within : depth ≤ 6) (mem : item ∈ items) (shown : Shows (depth + 1) item piece) :
      Shows depth (.array items) piece
  | key {depth : Nat} {entries : List (Units × LogValue)} {entry : Units × LogValue}
      (within : depth ≤ 6) (mem : entry ∈ entries) (own : entry.1 ≠ PROTO) :
      Shows depth (.object entries) (.key entry.1)
  | value {depth : Nat} {entries : List (Units × LogValue)} {entry : Units × LogValue}
      {piece : Piece} (within : depth ≤ 6) (mem : entry ∈ entries) (own : entry.1 ≠ PROTO)
      (plain : isSecretKey entry.1 = false) (shown : Shows (depth + 1) entry.2 piece) :
      Shows depth (.object entries) piece

/-- The piece is printed with a key in it. -/
def Piece.Exposed : Piece → Prop
  | key k => Somewhere WritesKey none k
  | text s => Somewhere WritesLoose none s

mutual

/-- Values that differ only in what is stored under secret keys, at any depth. -/
inductive SameButSecrets : LogValue → LogValue → Prop
  | refl (v : LogValue) : SameButSecrets v v
  | array {items items' : List LogValue} (same : SameItems items items') :
      SameButSecrets (.array items) (.array items')
  | object {entries entries' : List (Units × LogValue)} (same : SameEntries entries entries') :
      SameButSecrets (.object entries) (.object entries')

inductive SameItems : List LogValue → List LogValue → Prop
  | nil : SameItems [] []
  | cons {item item' : LogValue} {items items' : List LogValue} (same : SameButSecrets item item')
      (rest : SameItems items items') : SameItems (item :: items) (item' :: items')

inductive SameEntries : List (Units × LogValue) → List (Units × LogValue) → Prop
  | nil : SameEntries [] []
  | secret {key : Units} {item item' : LogValue} {entries entries' : List (Units × LogValue)}
      (secret : isSecretKey key = true) (rest : SameEntries entries entries') :
      SameEntries ((key, item) :: entries) ((key, item') :: entries')
  | plain {key : Units} {item item' : LogValue} {entries entries' : List (Units × LogValue)}
      (same : SameButSecrets item item') (rest : SameEntries entries entries') :
      SameEntries ((key, item) :: entries) ((key, item') :: entries')

end

/-! ## Units -/

section Units

variable {c : UInt16}

theorem isHexUnit_iff : isHexUnit c = true ↔ 48 ≤ c.toNat ∧ c.toNat ≤ 57 ∨
    65 ≤ c.toNat ∧ c.toNat ≤ 70 ∨ 97 ≤ c.toNat ∧ c.toNat ≤ 102 := by
  simp [isHexUnit, UInt16.le_iff_toNat_le, or_assoc]

theorem isWordUnit_iff : isWordUnit c = true ↔ 48 ≤ c.toNat ∧ c.toNat ≤ 57 ∨
    65 ≤ c.toNat ∧ c.toNat ≤ 90 ∨ c.toNat = 95 ∨ 97 ≤ c.toNat ∧ c.toNat ≤ 122 := by
  simp [isWordUnit, UInt16.le_iff_toNat_le, ← UInt16.toNat_inj, or_assoc]

theorem isHighSurrogate_iff :
    isHighSurrogate c = true ↔ 0xD800 ≤ c.toNat ∧ c.toNat ≤ 0xDBFF := by
  simp [isHighSurrogate, UInt16.le_iff_toNat_le]

theorem isLowSurrogate_iff : isLowSurrogate c = true ↔ 0xDC00 ≤ c.toNat ∧ c.toNat ≤ 0xDFFF := by
  simp [isLowSurrogate, UInt16.le_iff_toNat_le]

theorem isWordUnit_of_isHexUnit (hex : isHexUnit c = true) : isWordUnit c = true := by
  rw [isHexUnit_iff] at hex
  rw [isWordUnit_iff]
  omega

theorem ne_x_of_isHexUnit (hex : isHexUnit c = true) : c ≠ 120 := by
  rintro rfl
  exact absurd hex (by decide)

end Units

/-! ## Keys in a text -/

/-- A key begins here. -/
def KeyHere (c : UInt16) (rest : Units) : Prop := c = 48 ∧ HexTail rest

/-- A key is somewhere in the text. -/
def Leaks (t : Units) : Prop := Somewhere (fun _ => KeyHere) none t

/-- A unit that no key holds. -/
def Breaks (c : UInt16) : Prop := c ≠ 120 ∧ isHexUnit c = false

instance : DecidablePred Breaks := fun _ => inferInstanceAs (Decidable (_ ∧ _))

section Keys

variable {c : UInt16} {s t : Units} {before : Option UInt16}

theorem showsKey_iff : ShowsKey t ↔ Leaks t := by
  rw [Leaks, somewhere_iff_exists]
  constructor
  · rintro ⟨digits, long, hex, front, back, same⟩
    refine ⟨front, 48, 120 :: digits ++ back, ?_, rfl, rfl, (run_iff_exists 64).mpr
      ⟨digits.take 64, digits.drop 64 ++ back, ?_, ?_, fun d mem => ?_⟩⟩
    · rw [← same, List.append_assoc]
      rfl
    · rw [← List.append_assoc, List.take_append_drop]
      rfl
    · rw [List.length_take, min_eq_left long]
    · exact hex d (List.mem_of_mem_take mem)
  · rintro ⟨front, _, rest, rfl, rfl, tail⟩
    cases rest with
    | nil => exact absurd tail id
    | cons x rest =>
        obtain ⟨rfl, run⟩ := tail
        obtain ⟨digits, back, rfl, length, hex⟩ := (run_iff_exists 64).mp run
        refine ⟨digits, length.ge, hex, front, back, ?_⟩
        rw [List.append_assoc]
        rfl

theorem length_of_hexTail (tail : HexTail t) : 65 ≤ t.length := by
  cases t with
  | nil => exact absurd tail id
  | cons c rest =>
      obtain ⟨digits, back, rfl, length, -⟩ := (run_iff_exists 64).mp tail.2
      rw [List.length_cons, List.length_append, length]
      omega

theorem x_mem_of_hexTail (tail : HexTail t) : 120 ∈ t := by
  cases t with
  | nil => exact absurd tail id
  | cons c rest => exact tail.1 ▸ List.mem_cons_self

theorem hexTail_append_cons (breaks : Breaks c) (s t : Units) :
    HexTail (s ++ c :: t) ↔ HexTail s := by
  cases s with
  | nil => exact iff_of_false (fun tail => breaks.1 tail.1) id
  | cons d rest => exact and_congr_right fun _ => run_append_cons breaks.2 64

theorem leaks_append_cons (breaks : Breaks c) (s t : Units) :
    Leaks (s ++ c :: t) ↔ Leaks s ∨ Leaks t := by
  have begins (rest : Units) : ¬ KeyHere c rest := by
    rintro ⟨rfl, -⟩
    exact absurd breaks.2 (by decide)
  rw [Leaks, somewhere_append_cons begins fun d s t => and_congr_right fun _ =>
    hexTail_append_cons breaks s t]
  exact or_congr_right (somewhere_before _ _)

theorem leaks_cons : Leaks (c :: t) ↔ KeyHere c t ∨ Leaks t :=
  or_congr_right (somewhere_before _ _)

theorem leaks_cons_of_ne (other : c ≠ 48) : Leaks (c :: t) ↔ Leaks t :=
  leaks_cons.trans (or_iff_right fun here => other here.1)

/-- A text in brackets or quotes. -/
theorem leaks_bracket {opening closing : UInt16} (opens : opening ≠ 48) (closes : Breaks closing) :
    Leaks (opening :: t ++ [closing]) ↔ Leaks t := by
  rw [List.cons_append, leaks_cons_of_ne opens, leaks_append_cons closes]
  exact or_iff_left id

theorem leaks_join {sep : UInt16} (breaks : Breaks sep) (texts : List Units) :
    Leaks (Readable.join sep texts) ↔ ∃ text ∈ texts, Leaks text := by
  cases texts with
  | nil => simp [Leaks]
  | cons text texts =>
      rw [Readable.join_cons, List.exists_mem_cons_iff]
      induction texts generalizing text with
      | nil => simp
      | cons next rest ih =>
          rw [List.flatMap_cons, List.cons_append, leaks_append_cons breaks, ih next,
            List.exists_mem_cons_iff]

theorem x_mem_of_leaks (leaks : Leaks t) : 120 ∈ t := by
  obtain ⟨front, c, rest, rfl, -, tail⟩ := somewhere_iff_exists.mp leaks
  exact List.mem_append_right front (.tail c (x_mem_of_hexTail tail))

end Keys

/-! ## Printed strings -/

section Strings

variable {c : UInt16} {s t : Units} {before next : Option UInt16}

theorem hexUnit_spec : ∀ d < 16, isHexUnit (hexUnit d) = true ∧ (hexUnit d = 48 ↔ d = 0) := by
  decide

theorem not_writesZero (other : c ≠ 48) (odd : c.toNat % 16 ≠ 0) : ¬ WritesZero before c next := by
  rintro (zero | ⟨-, ends⟩)
  · exact other zero
  · exact odd ends

theorem leaks_unicodeEscape :
    Leaks (unicodeEscape c ++ t) ↔ c.toNat % 16 = 0 ∧ HexTail t ∨ Leaks t := by
  have fits : c.toNat < 65536 := c.toNat_lt
  have digit {d : Nat} (small : d < 16) (rest : Units) : ¬ HexTail (hexUnit d :: rest) :=
    fun tail => ne_x_of_isHexUnit (hexUnit_spec d small).1 tail.1
  have later {b : UInt16} {d : Nat} (small : d < 16) (rest : Units) :
      Leaks (b :: hexUnit d :: rest) ↔ Leaks (hexUnit d :: rest) :=
    leaks_cons.trans (or_iff_right fun here => digit small rest here.2)
  show Leaks (92 :: 117 :: hexUnit (c.toNat / 4096) :: hexUnit (c.toNat / 256 % 16) ::
    hexUnit (c.toNat / 16 % 16) :: hexUnit (c.toNat % 16) :: t) ↔ _
  rw [leaks_cons_of_ne (by decide), later (by omega), later (by omega), later (by omega),
    later (by omega), leaks_cons]
  exact or_congr_left (and_congr_left' (hexUnit_spec _ (by omega)).2)

/-- A unit of a string adds a key exactly if it writes a `0` in front of the rest of one. -/
theorem leaks_escapeUnit : Leaks (escapeUnit before c next ++ t) ↔
    WritesZero before c next ∧ HexTail t ∨ Leaks t := by
  have short {d : UInt16} (other : d ≠ 48) (odd : ¬ WritesZero before c next) :
      Leaks (92 :: d :: t) ↔ WritesZero before c next ∧ HexTail t ∨ Leaks t := by
    rw [leaks_cons_of_ne (by decide), leaks_cons_of_ne other]
    exact (or_iff_right fun writes => odd writes.1).symm
  rw [escapeUnit]
  split_ifs with quotes back bs ff lf cr tab escaped
  · exact short (d := 34) (by decide) (quotes ▸ not_writesZero (by decide) (by decide))
  · exact short (d := 92) (by decide) (back ▸ not_writesZero (by decide) (by decide))
  · exact short (d := 98) (by decide) (bs ▸ not_writesZero (by decide) (by decide))
  · exact short (d := 102) (by decide) (ff ▸ not_writesZero (by decide) (by decide))
  · exact short (d := 110) (by decide) (lf ▸ not_writesZero (by decide) (by decide))
  · exact short (d := 114) (by decide) (cr ▸ not_writesZero (by decide) (by decide))
  · exact short (d := 116) (by decide) (tab ▸ not_writesZero (by decide) (by decide))
  · rw [Bool.or_eq_true, decide_eq_true_eq] at escaped
    rw [leaks_unicodeEscape]
    refine or_congr_left (and_congr_left' ⟨fun ends => .inr ⟨escaped, ends⟩, ?_⟩)
    rintro (rfl | ⟨-, ends⟩)
    · decide
    · exact ends
  · rw [Bool.or_eq_true, decide_eq_true_eq] at escaped
    rw [List.singleton_append, leaks_cons]
    exact or_congr_left (and_congr_left' ⟨.inl, fun writes =>
      writes.elim id fun ends => absurd ends.1 escaped⟩)

/-- A unit of a word is printed as it is. -/
theorem escapeUnit_of_word (word : isWordUnit c = true) : escapeUnit before c next = [c] := by
  have other {d : UInt16} (plain : isWordUnit d = false) : c ≠ d := by
    rintro rfl
    rw [word] at plain
    cases plain
  have plain : (decide (c < 32) || isLone before c next) = false := by
    rw [isWordUnit_iff] at word
    have high : isHighSurrogate c = false := by
      rw [← Bool.not_eq_true, isHighSurrogate_iff]
      omega
    have low : isLowSurrogate c = false := by
      rw [← Bool.not_eq_true, isLowSurrogate_iff]
      omega
    have printable : ¬ c < 32 := by
      rw [UInt16.lt_iff_toNat_lt]
      simp only [UInt16.reduceToNat]
      omega
    simp [isLone, high, low, printable]
  rw [escapeUnit, if_neg (other (by decide)), if_neg (other (by decide)),
    if_neg (other (by decide)), if_neg (other (by decide)), if_neg (other (by decide)),
    if_neg (other (by decide)), if_neg (other (by decide)), plain]
  rfl

/-- Any other unit is printed as one that is of no word either, or as an escape. -/
theorem escapeUnit_of_not_word (word : isWordUnit c = false) :
    ∃ d tail, escapeUnit before c next = d :: tail ∧ isWordUnit d = false := by
  rw [escapeUnit]
  split_ifs
  all_goals first
    | exact ⟨92, _, rfl, by decide⟩
    | exact ⟨c, [], rfl, word⟩

theorem run_quoteFrom (n : Nat) : Run isHexUnit n (quoteFrom before s) ↔ Run isHexUnit n s := by
  induction s generalizing n before with
  | nil => exact Iff.rfl
  | cons c rest ih =>
      cases n with
      | zero => exact Iff.rfl
      | succ n =>
          rw [quoteFrom]
          cases word : isWordUnit c with
          | true =>
              rw [escapeUnit_of_word word]
              exact and_congr_right fun _ => ih n
          | false =>
              obtain ⟨d, tail, printed, other⟩ :=
                @escapeUnit_of_not_word c before rest.head? word
              have hexless {d : UInt16} (other : isWordUnit d = false) :
                  ¬ isHexUnit d = true := by
                intro hex
                rw [isWordUnit_of_isHexUnit hex] at other
                cases other
              rw [printed]
              exact iff_of_false (fun run => hexless other run.1) fun run => hexless word run.1

theorem hexTail_quoteFrom : HexTail (quoteFrom before s) ↔ HexTail s := by
  cases s with
  | nil => exact Iff.rfl
  | cons c rest =>
      rw [quoteFrom]
      cases word : isWordUnit c with
      | true =>
          rw [escapeUnit_of_word word]
          exact and_congr_right fun _ => run_quoteFrom 64
      | false =>
          obtain ⟨d, tail, printed, other⟩ := @escapeUnit_of_not_word c before rest.head? word
          have apart {d : UInt16} (other : isWordUnit d = false) : d ≠ 120 := by
            rintro rfl
            exact absurd other (by decide)
          rw [printed]
          exact iff_of_false (fun run => apart other run.1) fun run => apart word run.1

theorem leaks_quoteFrom : Leaks (quoteFrom before s) ↔ Somewhere WritesKey before s := by
  induction s generalizing before with
  | nil => exact Iff.rfl
  | cons c rest ih =>
      rw [quoteFrom, leaks_escapeUnit, hexTail_quoteFrom, ih]
      exact Iff.rfl

theorem leaks_quote : Leaks (quote s) ↔ Somewhere WritesKey none s :=
  (leaks_bracket (by decide) (by decide : Breaks 34)).trans leaks_quoteFrom

end Strings

/-! ## Masked strings -/

section Masks

variable {c : UInt16} {s t : Units} {before before' next : Option UInt16}

theorem not_hexKey_of_word {rest : Units} (word : before.any isWordUnit = true) :
    ¬ HexKey before c rest := by
  rintro ⟨rfl, -, boundary, -⟩
  rw [wordBoundary, word] at boundary
  exact absurd boundary (by decide)

theorem replaceKeys_of_not {rest : Units} (none : ¬ HexKey before c rest) :
    replaceKeys before 0 (c :: rest) = c :: replaceKeys (some c) 0 rest := if_neg none

/-- Within a word nothing is replaced. -/
theorem run_replaceKeys (word : before.any isWordUnit = true) (n : Nat) :
    Run isHexUnit n (replaceKeys before 0 s) ↔ Run isHexUnit n s := by
  induction s generalizing n before with
  | nil => exact Iff.rfl
  | cons c rest ih =>
      rw [replaceKeys_of_not (not_hexKey_of_word word)]
      cases n with
      | zero => exact Iff.rfl
      | succ n =>
          refine and_congr_right fun hex => ih ?_ n
          exact isWordUnit_of_isHexUnit hex

theorem hexTail_replaceKeys : HexTail (replaceKeys before 0 s) ↔ HexTail s := by
  cases s with
  | nil => exact Iff.rfl
  | cons c rest =>
      by_cases key : HexKey before c rest
      · obtain ⟨rfl, -⟩ := id key
        rw [replaceKeys, if_pos key]
        exact iff_of_false (fun tail => absurd tail.1 (by decide)) fun tail =>
          absurd tail.1 (by decide)
      · rw [replaceKeys_of_not key]
        refine and_congr_right fun x => run_replaceKeys ?_ 64
        subst x
        decide

/-- The rest of a match is left out. -/
theorem replaceKeys_append (front rest : Units) :
    replaceKeys before front.length (front ++ rest) =
      replaceKeys (front.getLast?.or before) 0 rest := by
  induction front generalizing before with
  | nil => rfl
  | cons c front ih =>
      rw [List.length_cons, List.cons_append, replaceKeys, ih]
      cases front with
      | nil => rfl
      | cons d front =>
          rw [List.getLast?_cons_cons, List.getLast?_cons]
          rfl

theorem writesZero_congr (same : before'.any isHighSurrogate = before.any isHighSurrogate) :
    WritesZero before' c next ↔ WritesZero before c next := by
  rw [WritesZero, WritesZero, isLone, isLone, same]

theorem head_of_hexTail (tail : HexTail t) : t.head? = some 120 := by
  cases t with
  | nil => exact absurd tail id
  | cons c rest => exact congrArg some tail.1

/-- A match is a word: `0x`, 64 digits, and then no unit of a word. -/
theorem HexKey.word {rest : Units} (key : HexKey before c rest) :
    c = 48 ∧ ∃ digits after, rest = 120 :: digits ++ after ∧ digits.length = 64 ∧
      (∀ d ∈ digits, isHexUnit d = true) ∧ after.head?.any isWordUnit = false := by
  obtain ⟨zero, tail, -, boundary⟩ := key
  cases rest with
  | nil => exact absurd tail id
  | cons x rest =>
      obtain ⟨rfl, run⟩ := tail
      obtain ⟨digits, after, rfl, length, hex⟩ := (run_iff_exists 64).mp run
      refine ⟨zero, digits, after, rfl, length, hex, ?_⟩
      have last : (120 :: (digits ++ after))[64]?.any isWordUnit = true := by
        have inside : 63 < digits.length := by omega
        rw [List.getElem?_cons_succ, List.getElem?_append_left inside,
          List.getElem?_eq_getElem inside]
        exact isWordUnit_of_isHexUnit (hex _ (List.getElem_mem inside))
      have next : (120 :: (digits ++ after))[65]? = after.head? := by
        rw [List.getElem?_cons_succ, List.getElem?_append_right length.le, length,
          List.head?_eq_getElem?]
      rw [wordBoundary, last, next] at boundary
      simpa using boundary

/-- What is put for a key writes no `0` after its first. -/
theorem writes_redactedKey :
    Somewhere WritesKey before (REDACTED_KEY ++ t) ↔ Somewhere WritesKey (some 93) t := by
  have first : ¬ WritesKey before 48 (REDACTED_KEY.tail ++ t) := fun writes =>
    absurd writes.2.2.1 (by decide)
  have plain : ∀ d ∈ REDACTED_KEY.tail, d ≠ 48 ∧ d.toNat % 16 ≠ 0 :=
    List.all_iff_forall_prop.mp (by decide)
  have split : REDACTED_KEY ++ t = 48 :: (REDACTED_KEY.tail ++ t) := rfl
  rw [split, somewhere_cons, or_iff_right first]
  exact somewhere_append_of_not fun before d rest suffix writes =>
    have here := plain d (suffix.mem List.mem_cons_self)
    not_writesZero here.1 here.2 writes.1

/-- Behind the `0` of a match no other key begins before its end. -/
theorem writes_match {digits after : Units} (hex : ∀ d ∈ digits, isHexUnit d = true)
    (ends : after.head?.any isWordUnit = false) :
    Somewhere WritesLoose before (120 :: digits ++ after) ↔
      Somewhere WritesLoose ((120 :: digits).getLast?.or before) after := by
  refine somewhere_append_of_not fun before c rest suffix writes => ?_
  have x : (rest ++ after).head? = some 120 := head_of_hexTail writes.1.2
  cases rest with
  | nil =>
      rw [List.nil_append] at x
      rw [x] at ends
      exact absurd ends (by decide)
  | cons d rest =>
      have digit : d ∈ digits := by
        rcases List.suffix_cons_iff.mp suffix with whole | suffix
        · exact (List.cons.inj whole).2 ▸ List.mem_cons_self
        · exact suffix.mem (.tail c List.mem_cons_self)
      exact ne_x_of_isHexUnit (hex d digit) (Option.some.inj x)

/-- A masked string has the keys that are no words of their own. -/
theorem writes_replaceKeys (same : before'.any isHighSurrogate = before.any isHighSurrogate) :
    Somewhere WritesKey before' (replaceKeys before 0 s) ↔ Somewhere WritesLoose before s := by
  induction length : s.length using Nat.strong_induction_on generalizing s before before' with
  | _ n ih =>
      cases s with
      | nil => exact Iff.rfl
      | cons c rest =>
          by_cases key : HexKey before c rest
          · obtain ⟨rfl, digits, after, rfl, count, hex, ends⟩ := id key.word
            have skips : replaceKeys (some 48) 65 (120 :: digits ++ after) =
                replaceKeys ((120 :: digits).getLast?.or (some 48)) 0 after := by
              rw [← replaceKeys_append, List.length_cons, count]
            have last : ((120 :: digits).getLast?.or (some 48)).any isHighSurrogate =
                false := by
              cases final : (120 :: digits).getLast? with
              | none => rfl
              | some d =>
                  rcases List.mem_cons.mp (List.mem_of_getLast? final) with rfl | digit
                  · decide
                  · have hex := isHexUnit_iff.mp (hex d digit)
                    show isHighSurrogate d = false
                    rw [← Bool.not_eq_true, isHighSurrogate_iff]
                    omega
            rw [replaceKeys, if_pos key, skips, writes_redactedKey, somewhere_cons,
              or_iff_right fun writes => writes.2 key, writes_match hex ends]
            refine ih after.length ?_ ?_ rfl
            · rw [← length, List.length_cons, List.length_append]
              omega
            · rw [last]
              decide
          · rw [replaceKeys_of_not key, somewhere_cons, somewhere_cons,
              ih rest.length (by rw [← length, List.length_cons]; omega) rfl rfl]
            rw [WritesLoose, and_iff_left key, WritesKey, WritesKey, hexTail_replaceKeys]
            refine or_congr_left (and_congr_left fun tail => ?_)
            rw [head_of_hexTail (hexTail_replaceKeys.mpr tail), head_of_hexTail tail]
            exact writesZero_congr same

end Masks

/-! ## Printed values -/

section Values

theorem x_mem_of_writes {s : Units} (writes : Somewhere WritesKey none s) : 120 ∈ s := by
  have tails := writes.imp fun _ _ _ here => here.2
  obtain ⟨front, c, rest, rfl, tail⟩ :=
    (@somewhere_iff_exists _ none s fun _ rest => HexTail rest).mp tails
  exact List.mem_append_right front (.tail c (x_mem_of_hexTail tail))

theorem length_of_writes {s : Units} (writes : Somewhere WritesKey none s) : 66 ≤ s.length := by
  have tails := writes.imp fun _ _ _ here => here.2
  obtain ⟨front, c, rest, rfl, tail⟩ :=
    (@somewhere_iff_exists _ none s fun _ rest => HexTail rest).mp tails
  have long := length_of_hexTail tail
  rw [List.length_append, List.length_cons]
  omega

theorem x_not_mem_unitsOf {t : Text} (small : ∀ c ∈ t, c.toNat < 120) : 120 ∉ unitsOf t := by
  intro mem
  obtain ⟨c, inside, same⟩ := List.mem_map.mp mem
  have value : c.toNat % 65536 = 120 := by
    have values := congrArg UInt16.toNat same
    rwa [UInt16.toNat_ofNat'] at values
  have bound := small c inside
  omega

theorem small_of_toDigits (n : Nat) : ∀ c ∈ Nat.toDigits 10 n, c.toNat < 120 := by
  intro c mem
  have digit := List.all_eq_true.mp (Js.all_isDigit_toDigits n) c mem
  simp only [Js.isDigit, Bool.and_eq_true, decide_eq_true_eq] at digit
  omega

theorem x_not_mem_bigint (n : Int) : 120 ∉ unitsOf (Js.toDecimal n) := by
  refine x_not_mem_unitsOf fun c mem => ?_
  rw [Js.toDecimal] at mem
  split_ifs at mem
  · rcases List.mem_cons.mp mem with rfl | mem
    · decide
    · exact small_of_toDigits _ c mem
  · exact small_of_toDigits _ c mem

theorem x_not_mem_magnitudeText (digits : Nat) (point : Int) :
    120 ∉ magnitudeText digits point := by
  have ds := small_of_toDigits digits
  have taken (n : Nat) : ∀ c ∈ (Nat.toDigits 10 digits).take n, c.toNat < 120 := fun c mem =>
    ds c (List.mem_of_mem_take mem)
  have dropped (n : Nat) : ∀ c ∈ (Nat.toDigits 10 digits).drop n, c.toNat < 120 := fun c mem =>
    ds c (List.mem_of_mem_drop mem)
  have zeros (n : Nat) : ∀ c ∈ List.replicate n '0', c.toNat < 120 := by
    intro c mem
    rw [List.eq_of_mem_replicate mem]
    decide
  have mantissa : ∀ c ∈ (Nat.toDigits 10 digits).take 1 ++
      '.' :: (Nat.toDigits 10 digits).drop 1, c.toNat < 120 :=
    List.forall_mem_append.mpr ⟨taken 1, List.forall_mem_cons.mpr ⟨by decide, dropped 1⟩⟩
  have power (sign : Text) (plain : ∀ c ∈ 'e' :: sign, c.toNat < 120) :
      ∀ c ∈ 'e' :: sign ++ Nat.toDigits 10 (point - 1).natAbs, c.toNat < 120 :=
    List.forall_mem_append.mpr ⟨plain, small_of_toDigits _⟩
  have zero : ('0').toNat < 120 := by decide
  have dot : ('.').toNat < 120 := by decide
  have minus : ∀ c ∈ ['e', '-'], c.toNat < 120 := List.all_iff_forall_prop.mp (by decide)
  have plus : ∀ c ∈ ['e', '+'], c.toNat < 120 := List.all_iff_forall_prop.mp (by decide)
  refine x_not_mem_unitsOf ?_
  split_ifs
  · exact List.all_iff_forall_prop.mp (by decide)
  · exact List.forall_mem_append.mpr ⟨ds, zeros _⟩
  · exact List.forall_mem_append.mpr ⟨taken _, List.forall_mem_cons.mpr ⟨dot, dropped _⟩⟩
  · exact List.forall_mem_append.mpr
      ⟨List.forall_mem_cons.mpr ⟨zero, List.forall_mem_cons.mpr ⟨dot, zeros _⟩⟩, ds⟩
  · exact List.forall_mem_append.mpr ⟨ds, power ['-'] minus⟩
  · exact List.forall_mem_append.mpr ⟨ds, power ['+'] plus⟩
  · exact List.forall_mem_append.mpr ⟨mantissa, power ['-'] minus⟩
  · exact List.forall_mem_append.mpr ⟨mantissa, power ['+'] plus⟩

theorem x_not_mem_numberText (n : JsNumber) : 120 ∉ numberText n := by
  cases n with
  | notFinite => decide
  | finite negative digits point =>
      rw [numberText, List.mem_append, not_or]
      refine ⟨?_, x_not_mem_magnitudeText digits point⟩
      split_ifs <;> decide

theorem isAddressUnits_length {s : Units} (address : isAddressUnits s = true) : s.length = 42 := by
  unfold isAddressUnits at address
  split at address
  · rw [Bool.and_eq_true, beq_iff_eq] at address
    rw [List.length_cons, List.length_cons, address.1]
  · cases address

/-- A string is printed with the keys that the mask leaves. -/
theorem leaks_string (s : Units) :
    Leaks (quote (if isAddressUnits s then truncateAddress s else replaceKeys none 0 s)) ↔
      Somewhere WritesLoose none s := by
  rw [leaks_quote]
  split_ifs with address
  · have long := isAddressUnits_length address
    have short : (truncateAddress s).length = 11 := by
      rw [truncateAddress, if_pos address, List.length_append, List.length_cons, List.length_take,
        List.length_drop, long]
      rfl
    refine iff_of_false (fun writes => ?_) fun writes => ?_
    · exact absurd (length_of_writes writes) (by rw [short]; decide)
    · exact absurd (length_of_writes (writes.imp fun _ _ _ here => here.1)) (by rw [long]; decide)
  · exact writes_replaceKeys rfl

theorem not_leaks_literals : ¬ Leaks (quote (units "[depth-limit]")) ∧
    ¬ Leaks (quote (units "[redacted]")) ∧ ¬ Leaks (units "null") ∧ ¬ Leaks (units "true") ∧
    ¬ Leaks (units "false") := by
  refine ⟨?_, ?_, ?_, ?_, ?_⟩ <;> exact fun leaks => absurd (x_mem_of_leaks leaks) (by decide)

mutual

/-- The printed value holds a key exactly if some piece that is printed is exposed. -/
theorem leaks_redact : ∀ (v : LogValue) (depth : Nat),
    Leaks (stringify (redact depth v)) ↔ ∃ piece, Shows depth v piece ∧ piece.Exposed
  | v, depth => by
      obtain ⟨limit, -, null, yes, no⟩ := not_leaks_literals
      rw [redact.eq_def]
      split_ifs with deep
      · refine iff_of_false limit ?_
        rintro ⟨piece, shown, -⟩
        cases shown <;> omega
      have within : depth ≤ 6 := not_lt.mp deep
      cases v with
      | null =>
          refine iff_of_false null ?_
          rintro ⟨piece, ⟨⟩, -⟩
      | bool b =>
          refine iff_of_false (by cases b <;> assumption) ?_
          rintro ⟨piece, ⟨⟩, -⟩
      | number n =>
          refine iff_of_false (fun leaks => x_not_mem_numberText n (x_mem_of_leaks leaks)) ?_
          rintro ⟨piece, ⟨⟩, -⟩
      | bigint n =>
          refine iff_of_false (fun leaks => x_not_mem_bigint n (x_mem_of_writes ?_)) ?_
          · exact leaks_quote.mp leaks
          · rintro ⟨piece, ⟨⟩, -⟩
      | string s =>
          dsimp only
          rw [← apply_ite JsonValue.str]
          refine (leaks_string s).trans ⟨fun writes => ⟨.text s, .text within, writes⟩, ?_⟩
          rintro ⟨piece, ⟨-⟩, writes⟩
          exact writes
      | array items =>
          dsimp only
          rw [stringify, leaks_bracket (by decide) (by decide), leaks_join (by decide),
            leaks_items items (depth + 1)]
          constructor
          · rintro ⟨item, mem, piece, shown, exposed⟩
            exact ⟨piece, .item within mem shown, exposed⟩
          · rintro ⟨piece, shown, exposed⟩
            cases shown with
            | item _ mem shown => exact ⟨_, mem, piece, shown, exposed⟩
      | object entries =>
          dsimp only
          rw [stringify, leaks_bracket (by decide) (by decide), leaks_join (by decide),
            leaks_entries entries (depth + 1)]
          constructor
          · rintro ⟨entry, mem, own, exposed | ⟨plain, piece, shown, exposed⟩⟩
            · exact ⟨.key entry.1, .key within mem own, exposed⟩
            · exact ⟨piece, .value within mem own plain shown, exposed⟩
          · rintro ⟨piece, shown, exposed⟩
            cases shown with
            | key _ mem own => exact ⟨_, mem, own, .inl exposed⟩
            | value _ mem own plain shown =>
                exact ⟨_, mem, own, .inr ⟨plain, piece, shown, exposed⟩⟩

theorem leaks_items : ∀ (items : List LogValue) (depth : Nat),
    (∃ text ∈ stringifyElements (redactItems depth items), Leaks text) ↔
      ∃ item ∈ items, ∃ piece, Shows depth item piece ∧ piece.Exposed
  | [], depth => by simp [redactItems, stringifyElements]
  | item :: rest, depth => by
      rw [redactItems, stringifyElements, List.exists_mem_cons_iff, List.exists_mem_cons_iff,
        leaks_redact item depth, leaks_items rest depth]

theorem leaks_entries : ∀ (entries : List (Units × LogValue)) (depth : Nat),
    (∃ text ∈ stringifyFields (redactEntries depth entries), Leaks text) ↔
      ∃ entry ∈ entries, entry.1 ≠ PROTO ∧ ((Piece.key entry.1).Exposed ∨
        isSecretKey entry.1 = false ∧ ∃ piece, Shows depth entry.2 piece ∧ piece.Exposed)
  | [], depth => by simp [redactEntries, stringifyFields]
  | (key, item) :: rest, depth => by
      rw [List.exists_mem_cons_iff, ← leaks_entries rest depth, redactEntries]
      dsimp only
      by_cases proto : key = PROTO
      · rw [if_pos proto]
        exact (or_iff_right fun here => here.1 proto).symm
      · rw [if_neg proto, stringifyFields, List.exists_mem_cons_iff,
          leaks_append_cons (by decide), leaks_quote, and_iff_right proto]
        refine or_congr_left (or_congr_right ?_)
        cases secret : isSecretKey key with
        | true =>
            rw [if_pos rfl]
            exact iff_of_false not_leaks_literals.2.1 fun here => absurd here.1 (by decide)
        | false =>
            rw [if_neg (by decide), leaks_redact item depth]
            exact (and_iff_right rfl).symm

end

end Values

/-! ## Secret keys -/

mutual

theorem redact_congr : ∀ {v w : LogValue}, SameButSecrets v w → ∀ depth,
    redact depth v = redact depth w
  | _, _, .refl _, _ => rfl
  | _, _, .array same, depth => by
      rw [redact.eq_def, redact.eq_def]
      dsimp only
      rw [redactItems_congr same (depth + 1)]
  | _, _, .object same, depth => by
      rw [redact.eq_def, redact.eq_def]
      dsimp only
      rw [redactEntries_congr same (depth + 1)]

theorem redactItems_congr : ∀ {items items' : List LogValue}, SameItems items items' → ∀ depth,
    redactItems depth items = redactItems depth items'
  | _, _, .nil, _ => rfl
  | _, _, .cons same rest, depth => by
      rw [redactItems, redactItems, redact_congr same depth, redactItems_congr rest depth]

theorem redactEntries_congr : ∀ {entries entries' : List (Units × LogValue)},
    SameEntries entries entries' → ∀ depth,
      redactEntries depth entries = redactEntries depth entries'
  | _, _, .nil, _ => rfl
  | _, _, .secret secret rest, depth => by
      rw [redactEntries, redactEntries, secret, redactEntries_congr rest depth]
      rfl
  | _, _, .plain same rest, depth => by
      rw [redactEntries, redactEntries, redact_congr same depth, redactEntries_congr rest depth]

end

/-- The printed text holds no key exactly if no printed piece is exposed; and it does not depend
on what is stored under secret keys. -/
theorem redacted_hides_iff (v : LogValue) :
    (¬ ShowsKey (stringify (redact 0 v)) ↔ ∀ piece, Shows 0 v piece → ¬ piece.Exposed) ∧
      ∀ w, SameButSecrets v w → stringify (redact 0 v) = stringify (redact 0 w) := by
  constructor
  · rw [showsKey_iff, leaks_redact v 0]
    constructor
    · intro hidden piece shown exposed
      exact hidden ⟨piece, shown, exposed⟩
    · rintro safe ⟨piece, shown, exposed⟩
      exact safe piece shown exposed
  · intro w same
    rw [redact_congr same 0]

/-! ### A key in a sentence, and a signature -/

def sampleKey : Units := units "0x" ++ List.replicate 64 97

/-- Fields with a secret, and with a loose key. -/
def sampleFields (secret : LogValue) : LogValue :=
  .object [(units "privateKey", secret),
    (units "note", .string (units "the value is " ++ sampleKey ++ units " ok"))]

theorem redacted_hides_sampleFields :
    ¬ ShowsKey (stringify (redact 0 (sampleFields (.string sampleKey)))) ∧
      stringify (redact 0 (sampleFields (.string sampleKey))) =
        stringify (redact 0 (sampleFields .null)) := by
  obtain ⟨hides, same⟩ := redacted_hides_iff (sampleFields (.string sampleKey))
  have secret : isSecretKey (units "privateKey") = true := by decide
  refine ⟨hides.mpr fun piece shown => ?_, same _ (.object (.secret secret (.plain (.refl _) .nil)))⟩
  cases shown with
  | key _ mem own =>
      have plain : ∀ key ∈ [units "privateKey", units "note"], 120 ∉ key := by decide
      exact fun writes => plain _ (List.mem_map_of_mem mem) (x_mem_of_writes writes)
  | value _ mem own plain shown =>
      rcases List.mem_cons.mp mem with rfl | mem
      · exact absurd (secret.symm.trans plain) (by decide)
      · obtain rfl := List.mem_singleton.mp mem
        cases shown
        show ¬ Somewhere WritesLoose none _
        decide +kernel

/-- A signature is longer than a key, and is printed in full. -/
theorem not_redacted_hides_signature :
    ShowsKey (stringify (redact 0 (.object [(units "signature",
      .string (units "0x" ++ List.replicate 130 97))]))) := by
  have hex : ∀ d ∈ List.replicate 130 97, isHexUnit d = true := by
    intro d mem
    rw [List.eq_of_mem_replicate mem]
    decide
  refine ⟨List.replicate 130 97, ?_, hex, units "\x7b\"signature\":\"", units "\"\x7d", ?_⟩
  · rw [List.length_replicate]
    decide
  · decide +kernel

end Redaction

end Sdk

end AgentProof
