import AgentProof.Lib.Readable
import AgentProof.Sdk.Hex
import Mathlib.Data.Char
import Mathlib.Data.List.Lex

/-!
# Canonical JSON

`canonicalJSON` of `core/policy.ts`: no white space, and the fields of an object
in the order of their keys.  Two values print alike exactly if they are one value
up to the order of fields.  Strings and finite numbers are any types that
`JSON.stringify` prints injectively, as string and number literals; `0` and `-0`
are one number.
-/

namespace AgentProof

namespace Sdk

open Js Readable

/-- A JSON value over a type of strings and one of finite numbers. -/
inductive JsonValue (S N : Type)
  | null
  | bool (b : Bool)
  | num (n : N)
  | str (s : S)
  | arr (elements : List (JsonValue S N))
  | obj (fields : List (S × JsonValue S N))

/-- `JSON.stringify` on strings and on finite numbers. -/
structure Stringify (S N : Type) where
  string : S → Text
  number : N → Text

namespace JsonValue

variable {S N : Type}

/-- Induction over the elements and the field values. -/
theorem induct {P : JsonValue S N → Prop} (null : P .null) (bool : ∀ b, P (.bool b))
    (num : ∀ n, P (.num n)) (str : ∀ s, P (.str s))
    (arr : ∀ elements, (∀ v ∈ elements, P v) → P (.arr elements))
    (obj : ∀ fields, (∀ field ∈ fields, P field.2) → P (.obj fields)) : ∀ v, P v
  | .null => null
  | .bool b => bool b
  | .num n => num n
  | .str s => str s
  | .arr elements => arr elements fun v _ => induct null bool num str arr obj v
  | .obj fields => obj fields fun field _ => induct null bool num str arr obj field.2
termination_by v => sizeOf v
decreasing_by
  · have smaller := List.sizeOf_lt_of_mem ‹v ∈ elements›
    simp only [JsonValue.arr.sizeOf_spec]
    omega
  · have smaller := List.sizeOf_lt_of_mem ‹field ∈ fields›
    obtain ⟨key, value⟩ := field
    simp only [JsonValue.obj.sizeOf_spec, Prod.mk.sizeOf_spec] at smaller ⊢
    omega

/-- One value up to the order of the fields of its objects. -/
inductive SameValue : JsonValue S N → JsonValue S N → Prop
  | null : SameValue .null .null
  | bool (b : Bool) : SameValue (.bool b) (.bool b)
  | num (n : N) : SameValue (.num n) (.num n)
  | str (s : S) : SameValue (.str s) (.str s)
  | arr {xs ys : List (JsonValue S N)} (elements : List.Forall₂ SameValue xs ys) :
      SameValue (.arr xs) (.arr ys)
  | obj {fs gs hs : List (S × JsonValue S N)} (order : fs.Perm gs)
      (keys : gs.map Prod.fst = hs.map Prod.fst)
      (values : List.Forall₂ SameValue (gs.map Prod.snd) (hs.map Prod.snd)) :
      SameValue (.obj fs) (.obj hs)

/-- No object has two fields of one key, at any depth. -/
inductive DistinctKeys : JsonValue S N → Prop
  | null : DistinctKeys .null
  | bool (b : Bool) : DistinctKeys (.bool b)
  | num (n : N) : DistinctKeys (.num n)
  | str (s : S) : DistinctKeys (.str s)
  | arr {xs : List (JsonValue S N)} (elements : ∀ x ∈ xs, DistinctKeys x) : DistinctKeys (.arr xs)
  | obj {fs : List (S × JsonValue S N)} (keys : (fs.map Prod.fst).Nodup)
      (values : ∀ f ∈ fs, DistinctKeys f.2) : DistinctKeys (.obj fs)

end JsonValue

open JsonValue

variable {S N : Type} [LinearOrder S]

/-- `entries.sort(([a], [b]) => (a < b ? -1 : a > b ? 1 : 0))`. -/
def sortByKey {V : Type} (entries : List (S × V)) : List (S × V) :=
  entries.insertionSort fun a b => a.1 ≤ b.1

section Print

variable (j : Stringify S N)

/-- An object from its printed fields. -/
def fieldText (field : S × Text) : Text := j.string field.1 ++ ':' :: field.2

mutual

/-- The field values are printed before the sort, which looks at the keys only. -/
def canonicalJSON : JsonValue S N → Text
  | .null => "null".toList
  | .bool true => "true".toList
  | .bool false => "false".toList
  | .num n => j.number n
  | .str s => j.string s
  | .arr elements => '[' :: join ',' (canonicalElements elements) ++ [']']
  | .obj fields =>
      '{' :: join ',' ((sortByKey (canonicalFields fields)).map (fieldText j)) ++ ['}']

def canonicalElements : List (JsonValue S N) → List Text
  | [] => []
  | element :: rest => canonicalJSON element :: canonicalElements rest

def canonicalFields : List (S × JsonValue S N) → List (S × Text)
  | [] => []
  | (key, value) :: rest => (key, canonicalJSON value) :: canonicalFields rest

end

theorem canonicalElements_eq (elements : List (JsonValue S N)) :
    canonicalElements j elements = elements.map (canonicalJSON j) := by
  induction elements with
  | nil => rw [canonicalElements, List.map_nil]
  | cons element rest ih => rw [canonicalElements, List.map_cons, ih]

theorem canonicalFields_eq (fields : List (S × JsonValue S N)) :
    canonicalFields j fields = fields.map fun field => (field.1, canonicalJSON j field.2) := by
  induction fields with
  | nil => rw [canonicalFields, List.map_nil]
  | cons field rest ih => rw [canonicalFields, List.map_cons, ih]

/-- The text of a field: its key, a colon and its value. -/
def printField (field : S × JsonValue S N) : Text :=
  j.string field.1 ++ ':' :: canonicalJSON j field.2

/-- As the source has it: sort, then print. -/
theorem canonicalJSON_obj (fields : List (S × JsonValue S N)) :
    canonicalJSON j (.obj fields) =
      '{' :: join ',' ((sortByKey fields).map (printField j)) ++ ['}'] := by
  have commutes : sortByKey (canonicalFields j fields) =
      (sortByKey fields).map fun field => (field.1, canonicalJSON j field.2) := by
    rw [canonicalFields_eq, sortByKey, sortByKey]
    exact (List.map_insertionSort (fun a b : S × JsonValue S N => a.1 ≤ b.1)
      (fun a b : S × Text => a.1 ≤ b.1) _ fields fun _ _ _ _ => Iff.rfl).symm
  rw [canonicalJSON, commutes, List.map_map]
  rfl

theorem canonicalJSON_arr (elements : List (JsonValue S N)) :
    canonicalJSON j (.arr elements) =
      '[' :: join ',' (elements.map (canonicalJSON j)) ++ [']'] := by
  rw [canonicalJSON, canonicalElements_eq]

/-! ## The same value, the same text -/

theorem keys_sortByKey_sorted {V : Type} {fields : List (S × V)}
    (distinct : (fields.map Prod.fst).Nodup) :
    (sortByKey fields).Pairwise fun a b => a.1 < b.1 := by
  have sorted : (sortByKey fields).Pairwise fun a b => a.1 ≤ b.1 := by
    have total : Std.Total fun a b : S × V => a.1 ≤ b.1 := ⟨fun a b => le_total a.1 b.1⟩
    have trans : IsTrans (S × V) fun a b => a.1 ≤ b.1 := ⟨fun _ _ _ ab bc => le_trans ab bc⟩
    exact List.pairwise_insertionSort (fun a b : S × V => a.1 ≤ b.1) fields
  have apart : (sortByKey fields).Pairwise fun a b => a.1 ≠ b.1 := by
    have perm := (List.perm_insertionSort (fun a b : S × V => a.1 ≤ b.1) fields).map Prod.fst
    exact List.pairwise_map.mp (perm.nodup_iff.mpr distinct)
  exact (sorted.and apart).imp fun both => lt_of_le_of_ne both.1 both.2

/-- Sorting forgets the order there was. -/
theorem sortByKey_perm {V : Type} {fields fields' : List (S × V)}
    (distinct : (fields.map Prod.fst).Nodup) (order : fields.Perm fields') :
    sortByKey fields = sortByKey fields' := by
  have distinct' : (fields'.map Prod.fst).Nodup := (order.map Prod.fst).nodup_iff.mp distinct
  have perm : (sortByKey fields).Perm (sortByKey fields') :=
    (List.perm_insertionSort _ fields).trans (order.trans (List.perm_insertionSort _ fields').symm)
  refine List.Perm.eq_of_pairwise ?_ (keys_sortByKey_sorted distinct)
    (keys_sortByKey_sorted distinct') perm
  intro a b _ _ less more
  exact absurd less (lt_asymm more)

/-- Elements that are the same pairwise print alike, if each does. -/
theorem map_canonicalJSON_eq {xs ys : List (JsonValue S N)}
    (each : ∀ x ∈ xs, ∀ y, SameValue x y → canonicalJSON j x = canonicalJSON j y)
    (same : List.Forall₂ SameValue xs ys) :
    xs.map (canonicalJSON j) = ys.map (canonicalJSON j) := by
  induction same with
  | nil => rfl
  | cons first _ ih =>
      rw [List.map_cons, List.map_cons, each _ List.mem_cons_self _ first,
        ih fun x mem => each x (.tail _ mem)]

theorem keys_canonicalFields (fields : List (S × JsonValue S N)) :
    (canonicalFields j fields).map Prod.fst = fields.map Prod.fst := by
  rw [canonicalFields_eq, List.map_map]
  rfl

theorem canonicalJSON_of_sameValue {v : JsonValue S N} :
    v.DistinctKeys → ∀ w, SameValue v w → canonicalJSON j v = canonicalJSON j w := by
  induction v using JsonValue.induct with
  | null =>
      intro _ w same
      cases same
      rfl
  | bool b =>
      intro _ w same
      cases same
      rfl
  | num n =>
      intro _ w same
      cases same
      rfl
  | str s =>
      intro _ w same
      cases same
      rfl
  | arr xs ih =>
      intro distinct w same
      cases distinct with
      | arr each =>
          cases same with
          | arr elements =>
              rw [canonicalJSON_arr, canonicalJSON_arr,
                map_canonicalJSON_eq j (fun x mem => ih x mem (each x mem)) elements]
  | obj fs ih =>
      intro distinct w same
      cases distinct with
      | obj nodup each =>
          cases same with
          | @obj _ gs hs order keys values =>
              have printed : canonicalFields j gs = canonicalFields j hs := by
                have texts : (gs.map Prod.snd).map (canonicalJSON j) =
                    (hs.map Prod.snd).map (canonicalJSON j) := by
                  refine map_canonicalJSON_eq j (fun x mem => ?_) values
                  obtain ⟨field, there, rfl⟩ := List.mem_map.mp mem
                  have here := order.symm.subset there
                  exact ih field here (each field here)
                rw [List.map_map, List.map_map] at texts
                rw [canonicalFields_eq, canonicalFields_eq, ← List.zip_map', ← List.zip_map', keys]
                exact congrArg _ texts
              have reordered : (canonicalFields j fs).Perm (canonicalFields j hs) := by
                rw [← printed, canonicalFields_eq, canonicalFields_eq]
                exact order.map _
              rw [canonicalJSON, canonicalJSON, sortByKey_perm _ reordered]
              rw [keys_canonicalFields]
              exact nodup

/-! ## The same text, the same value -/

/-- The rest of a text behind the string literal it is in, which ends at the first
quote that is not escaped. -/
def skipString : Bool → Text → Option Text
  | _, [] => none
  | escaped, c :: rest =>
      if escaped then skipString false rest
      else if c = '"' then some rest
      else skipString (c = '\\') rest

theorem skipString_append {body rest : Text} {escaped : Bool} (s : Text)
    (skipped : skipString escaped body = some rest) :
    skipString escaped (body ++ s) = some (rest ++ s) := by
  induction body generalizing escaped with
  | nil => cases skipped
  | cons c tail ih =>
      rw [skipString] at skipped
      rw [List.cons_append, skipString]
      split_ifs at skipped ⊢
      · exact ih skipped
      · rw [Option.some.inj skipped]
      · exact ih skipped

/-- What `JSON.stringify` is documented to print: strings and numbers injectively,
a string as a literal that ends with it, a number in digits, signs, a point and
an exponent. -/
structure Stringify.Documented (j : Stringify S N) : Prop where
  string_injective : Function.Injective j.string
  string_literal : ∀ s, ∃ body, j.string s = '"' :: body ∧ skipString false body = some []
  number_injective : Function.Injective j.number
  number_nonempty : ∀ n, j.number n ≠ []
  number_literal : ∀ n, ∀ c ∈ j.number n, c ∈ "0123456789+-.e".toList

/-- A printed value is followed by the end, a comma or a closing bracket. -/
def stop (c : Char) : Prop := c = ',' ∨ c = ']' ∨ c = '}'

/-- The kind of a value, which the first character of its text tells. -/
def kind : JsonValue S N → Nat
  | .null => 0
  | .bool _ => 1
  | .num _ => 2
  | .str _ => 3
  | .arr _ => 4
  | .obj _ => 5

def kindOf (c : Char) : Nat :=
  if c = 'n' then 0
  else if c = 't' ∨ c = 'f' then 1
  else if c ∈ "0123456789+-.e".toList then 2
  else if c = '"' then 3
  else if c = '[' then 4
  else if c = '{' then 5
  else 6

omit [LinearOrder S] in
theorem kind_lt (v : JsonValue S N) : kind v < 6 := by
  cases v <;> norm_num [kind]

theorem kindOf_number : ∀ c ∈ "0123456789+-.e".toList, kindOf c = 2 := by
  have all : ("0123456789+-.e".toList.all fun c => kindOf c = 2) = true := by decide
  intro c mem
  exact of_decide_eq_true (List.all_eq_true.mp all c mem)

theorem number_unstopped : ∀ c ∈ "0123456789+-.e".toList, ¬ stop c := by
  intro c mem stopped
  rcases stopped with rfl | rfl | rfl
  · exact absurd mem (by decide)
  · exact absurd mem (by decide)
  · exact absurd mem (by decide)

variable {j} (documented : j.Documented)
include documented

omit [LinearOrder S] in
/-- A string literal shows where it ends. -/
theorem Stringify.Documented.string_append_inj {a b : S} {s t : Text}
    (same : j.string a ++ s = j.string b ++ t) : a = b ∧ s = t := by
  obtain ⟨body, literal, ends⟩ := documented.string_literal a
  obtain ⟨body', literal', ends'⟩ := documented.string_literal b
  rw [literal, literal', List.cons_append, List.cons_append, List.cons.injEq] at same
  have skipped := skipString_append s ends
  rw [same.2, skipString_append t ends', List.nil_append, List.nil_append,
    Option.some.injEq] at skipped
  subst skipped
  refine ⟨documented.string_injective ?_, rfl⟩
  rw [literal, literal', List.append_cancel_right same.2]

theorem opens (v : JsonValue S N) :
    ∃ c rest, canonicalJSON j v = c :: rest ∧ kindOf c = kind v := by
  cases v with
  | null => exact ⟨'n', _, by rw [canonicalJSON]; rfl, rfl⟩
  | bool b =>
      cases b with
      | true => exact ⟨'t', _, by rw [canonicalJSON]; rfl, rfl⟩
      | false => exact ⟨'f', _, by rw [canonicalJSON]; rfl, rfl⟩
  | num n =>
      rw [canonicalJSON]
      cases printed : j.number n with
      | nil => exact absurd printed (documented.number_nonempty n)
      | cons c rest =>
          have literal := documented.number_literal n c (printed ▸ List.mem_cons_self)
          exact ⟨c, rest, rfl, kindOf_number c literal⟩
  | str s =>
      obtain ⟨body, literal, -⟩ := documented.string_literal s
      exact ⟨'"', body, by rw [canonicalJSON, literal], rfl⟩
  | arr elements => exact ⟨'[', _, by rw [canonicalJSON]; rfl, rfl⟩
  | obj fields => exact ⟨'{', _, by rw [canonicalJSON]; rfl, rfl⟩

/-- Values whose texts begin alike are of one kind. -/
theorem kind_eq {v w : JsonValue S N} {s t : Text}
    (same : canonicalJSON j v ++ s = canonicalJSON j w ++ t) : kind v = kind w := by
  obtain ⟨c, rest, begins, kindly⟩ := opens documented v
  obtain ⟨d, rest', begins', kindly'⟩ := opens documented w
  rw [begins, begins', List.cons_append, List.cons_append, List.cons.injEq] at same
  rw [← kindly, ← kindly', same.1]

theorem opens_value (v : JsonValue S N) :
    ∃ c rest, canonicalJSON j v = c :: rest ∧ c ≠ ']' := by
  obtain ⟨c, rest, begins, kindly⟩ := opens documented v
  refine ⟨c, rest, begins, ?_⟩
  intro closes
  have bound := kind_lt v
  rw [← kindly, closes] at bound
  exact absurd bound (by decide)

theorem opens_field (field : S × JsonValue S N) :
    ∃ c rest, printField j field = c :: rest ∧ c ≠ '}' := by
  obtain ⟨body, literal, -⟩ := documented.string_literal field.1
  exact ⟨'"', body ++ ':' :: canonicalJSON j field.2, by rw [printField, literal]; rfl, by decide⟩

/-- A field reads back to its key and its value. -/
theorem reads_printField {field : S × JsonValue S N}
    (reads : Reads stop (canonicalJSON j) DistinctKeys SameValue field.2) :
    Reads stop (printField j) (fun f => f.2.DistinctKeys)
      (fun f g => f.1 = g.1 ∧ SameValue f.2 g.2) field := by
  intro other s t fine stopped stopped' same
  simp only [printField, List.append_assoc, List.cons_append] at same
  obtain ⟨keys, rest⟩ := documented.string_append_inj same
  obtain ⟨values, tails⟩ := reads other.2 s t fine stopped stopped' (List.cons.inj rest).2
  exact ⟨⟨keys, values⟩, tails⟩

omit documented in
/-- Fields that agree in the order of their keys. -/
theorem sameValue_obj {fs gs : List (S × JsonValue S N)}
    (agree : List.Forall₂ (fun f g => f.1 = g.1 ∧ SameValue f.2 g.2) (sortByKey fs)
      (sortByKey gs)) : SameValue (.obj fs) (.obj gs) := by
  have unsorted : (Relation.Comp List.Perm
      (List.Forall₂ fun f g : S × JsonValue S N => f.1 = g.1 ∧ SameValue f.2 g.2))
        (sortByKey fs) gs := by
    rw [← List.forall₂_comp_perm_eq_perm_comp_forall₂]
    exact ⟨sortByKey gs, agree, List.perm_insertionSort _ gs⟩
  obtain ⟨hs, order, fields⟩ := unsorted
  refine .obj ((List.perm_insertionSort _ fs).symm.trans order) ?_ ?_
  · rw [← List.forall₂_eq_eq_eq, List.forall₂_map_left_iff, List.forall₂_map_right_iff]
    exact fields.imp fun _ _ both => both.1
  · rw [List.forall₂_map_left_iff, List.forall₂_map_right_iff]
    exact fields.imp fun _ _ both => both.2

/-- No text of a value is that of another, whatever stops follow. -/
theorem reads_canonicalJSON {v : JsonValue S N} :
    v.DistinctKeys → Reads stop (canonicalJSON j) DistinctKeys SameValue v := by
  induction v using JsonValue.induct with
  | null =>
      intro _ w s t _ _ _ same
      have kinds := kind_eq documented same
      cases w with
      | null => exact ⟨.null, List.append_cancel_left same⟩
      | _ => cases kinds
  | bool b =>
      intro _ w s t _ _ _ same
      have kinds := kind_eq documented same
      cases w with
      | bool b' =>
          cases b <;> cases b' <;> simp only [canonicalJSON] at same
          · exact ⟨.bool false, List.append_cancel_left same⟩
          · cases (List.cons.inj same).1
          · cases (List.cons.inj same).1
          · exact ⟨.bool true, List.append_cancel_left same⟩
      | _ => cases kinds
  | num n =>
      intro _ w s t _ stopped stopped' same
      have kinds := kind_eq documented same
      cases w with
      | num m =>
          rw [canonicalJSON, canonicalJSON] at same
          have plain : ∀ k, ∀ c ∈ j.number k, ¬ stop c := fun k c mem =>
            number_unstopped c (documented.number_literal k c mem)
          obtain ⟨texts, tails⟩ :=
            append_inj_of_unstopped (plain n) (plain m) stopped stopped' same
          rw [documented.number_injective texts]
          exact ⟨.num m, tails⟩
      | _ => cases kinds
  | str a =>
      intro _ w s t _ _ _ same
      have kinds := kind_eq documented same
      cases w with
      | str b =>
          rw [canonicalJSON, canonicalJSON] at same
          obtain ⟨rfl, tails⟩ := documented.string_append_inj same
          exact ⟨.str a, tails⟩
      | _ => cases kinds
  | arr xs ih =>
      intro distinct w s t distinct' _ _ same
      have kinds := kind_eq documented same
      cases w with
      | arr ys =>
          cases distinct with
          | arr each =>
              cases distinct' with
              | arr each' =>
                  simp only [canonicalJSON_arr, List.cons_append, List.append_assoc,
                    List.nil_append, List.cons.injEq, true_and] at same
                  obtain ⟨elements, tails⟩ := reads_join (by decide) (.inl rfl) (.inr (.inl rfl))
                    (opens_value documented) (fun x mem => ih x mem (each x mem)) each' same
                  exact ⟨.arr elements, tails⟩
      | _ => cases kinds
  | obj fs ih =>
      intro distinct w s t distinct' _ _ same
      have kinds := kind_eq documented same
      cases w with
      | obj gs =>
          cases distinct with
          | obj keys each =>
              cases distinct' with
              | obj keys' each' =>
                  simp only [canonicalJSON_obj, List.cons_append, List.append_assoc,
                    List.nil_append, List.cons.injEq, true_and] at same
                  obtain ⟨fields, tails⟩ := reads_join (by decide) (.inl rfl) (.inr (.inr rfl))
                    (opens_field documented) (fun f mem => reads_printField documented
                      (ih f (List.mem_insertionSort _ |>.mp mem)
                        (each f (List.mem_insertionSort _ |>.mp mem))))
                    (fun g mem => each' g (List.mem_insertionSort _ |>.mp mem)) same
                  exact ⟨sameValue_obj fields, tails⟩
      | _ => cases kinds

/-- Two JSON values print alike exactly if they are the same value. -/
theorem canonicalJSON_eq_iff {v w : JsonValue S N} (distinct : v.DistinctKeys)
    (distinct' : w.DistinctKeys) : canonicalJSON j v = canonicalJSON j w ↔ SameValue v w := by
  constructor
  · intro same
    have stopped : Stopped stop ([] : Text) := fun c head => by cases head
    have followed : canonicalJSON j v ++ [] = canonicalJSON j w ++ [] := by rw [same]
    exact (reads_canonicalJSON documented distinct w [] [] distinct' stopped stopped followed).1
  · exact canonicalJSON_of_sameValue j distinct w

end Print

/-! ## `JSON.stringify` of texts and integers -/

/-- One character inside a string literal. -/
def escapeChar (c : Char) : Text :=
  if c = '"' then ['\\', '"'] else if c = '\\' then ['\\', '\\']
  else if c.toNat = 8 then ['\\', 'b'] else if c.toNat = 12 then ['\\', 'f']
  else if c = '\n' then ['\\', 'n'] else if c = '\r' then ['\\', 'r']
  else if c = '\t' then ['\\', 't']
  else if c.toNat < 32 then ['\\', 'u'] ++ fixedHex 4 c.toNat
  else [c]

/-- The character behind a backslash stands for this one. -/
def unescape (k : Char) : Char :=
  if k = 'b' then Char.ofNat 8 else if k = 'f' then Char.ofNat 12 else if k = 'n' then '\n'
  else if k = 'r' then '\r' else if k = 't' then '\t' else k

/-- A character stands for itself, behind a backslash, or as its number. -/
theorem escapeChar_cases (c : Char) :
    (escapeChar c = [c] ∧ c ≠ '"' ∧ c ≠ '\\') ∨
    (∃ k, escapeChar c = ['\\', k] ∧ k ≠ 'u' ∧ c = unescape k) ∨
    (escapeChar c = '\\' :: 'u' :: fixedHex 4 c.toNat ∧ c.toNat < 32) := by
  unfold escapeChar
  split_ifs with quote slash eight twelve newline return_ tab control
  · exact .inr (.inl ⟨'"', rfl, by decide, quote⟩)
  · exact .inr (.inl ⟨'\\', rfl, by decide, slash⟩)
  · refine .inr (.inl ⟨'b', rfl, by decide, ?_⟩)
    rw [← Char.ofNat_toNat c, eight]
    rfl
  · refine .inr (.inl ⟨'f', rfl, by decide, ?_⟩)
    rw [← Char.ofNat_toNat c, twelve]
    rfl
  · exact .inr (.inl ⟨'n', rfl, by decide, newline⟩)
  · exact .inr (.inl ⟨'r', rfl, by decide, return_⟩)
  · exact .inr (.inl ⟨'t', rfl, by decide, tab⟩)
  · exact .inr (.inr ⟨rfl, control⟩)
  · exact .inl ⟨rfl, quote, slash⟩

/-- Escapes show where they end. -/
theorem escapeChar_append_inj {c d : Char} {s t : Text}
    (same : escapeChar c ++ s = escapeChar d ++ t) : c = d ∧ s = t := by
  rcases escapeChar_cases c with ⟨plain, -, unslashed⟩ | ⟨k, short, other, denotes⟩ | ⟨long, small⟩ <;>
    rcases escapeChar_cases d with ⟨plain', -, unslashed'⟩ | ⟨k', short', other', denotes'⟩ |
      ⟨long', small'⟩
  · rw [plain, plain'] at same
    exact ⟨(List.cons.inj same).1, (List.cons.inj same).2⟩
  · rw [plain, short'] at same
    exact absurd (List.cons.inj same).1 unslashed
  · rw [plain, long'] at same
    exact absurd (List.cons.inj same).1 unslashed
  · rw [short, plain'] at same
    exact absurd (List.cons.inj same).1.symm unslashed'
  · rw [short, short'] at same
    obtain ⟨rfl, rfl⟩ := List.cons.inj (List.cons.inj same).2
    exact ⟨denotes.trans denotes'.symm, rfl⟩
  · rw [short, long'] at same
    exact absurd (List.cons.inj (List.cons.inj same).2).1 other
  · rw [long, plain'] at same
    exact absurd (List.cons.inj same).1.symm unslashed'
  · rw [long, short'] at same
    exact absurd (List.cons.inj (List.cons.inj same).2).1.symm other'
  · rw [long, long'] at same
    obtain ⟨-, rest⟩ := List.cons.inj same
    obtain ⟨-, digits⟩ := List.cons.inj rest
    obtain ⟨numbers, tails⟩ := List.append_inj digits (by rw [length_fixedHex, length_fixedHex])
    refine ⟨?_, tails⟩
    have values := congrArg (numeral 16) numbers
    rw [numeral_fixedHex, numeral_fixedHex, Nat.mod_eq_of_lt (by omega),
      Nat.mod_eq_of_lt (by omega)] at values
    exact Char.toNat_inj.mp values

theorem flatMap_escapeChar_injective : Function.Injective fun s : Text => s.flatMap escapeChar := by
  intro s t same
  have nonempty : ∀ c, escapeChar c ≠ [] := by
    intro c
    rcases escapeChar_cases c with ⟨plain, -⟩ | ⟨k, short, -⟩ | ⟨long, -⟩
    · simp [plain]
    · simp [short]
    · simp [long]
  induction s generalizing t with
  | nil =>
      cases t with
      | nil => rfl
      | cons d t => simp [nonempty d] at same
  | cons c s ih =>
      cases t with
      | nil => simp [nonempty c] at same
      | cons d t =>
          simp only [List.flatMap_cons] at same
          obtain ⟨rfl, rest⟩ := escapeChar_append_inj same
          rw [ih rest]

/-- Inside a literal, characters that need no escape are passed over. -/
theorem skipString_plain {x : Text} (plain : ∀ c ∈ x, c ≠ '"' ∧ c ≠ '\\') (rest : Text) :
    skipString false (x ++ rest) = skipString false rest := by
  induction x with
  | nil => rfl
  | cons c x ih =>
      obtain ⟨unquoted, unslashed⟩ := plain c List.mem_cons_self
      rw [List.cons_append, skipString, if_neg Bool.false_ne_true, if_neg unquoted]
      rw [show decide (c = '\\') = false from decide_eq_false unslashed]
      exact ih fun d mem => plain d (.tail _ mem)

theorem skipString_escapeChar (c : Char) (rest : Text) :
    skipString false (escapeChar c ++ rest) = skipString false rest := by
  rcases escapeChar_cases c with ⟨plain, unquoted, unslashed⟩ | ⟨k, short, -⟩ | ⟨long, -⟩
  · rw [plain]
    refine skipString_plain (fun d mem => ?_) rest
    rw [List.mem_singleton.mp mem]
    exact ⟨unquoted, unslashed⟩
  · rw [short]
    rfl
  · rw [long]
    change skipString false (fixedHex 4 c.toNat ++ rest) = _
    refine skipString_plain (fun d mem => ?_) rest
    have hex := List.all_eq_true.mp (allHex_fixedHex 4 c.toNat) d mem
    constructor
    · rintro rfl
      exact absurd hex (by decide)
    · rintro rfl
      exact absurd hex (by decide)

theorem skipString_jsonString (s : Text) :
    skipString false (s.flatMap escapeChar ++ ['"']) = some [] := by
  induction s with
  | nil => rfl
  | cons c s ih =>
      rw [List.flatMap_cons, List.append_assoc, skipString_escapeChar]
      exact ih

/-- Texts without surrogates, and integers below 10^21 as they stand. -/
def jsonText : Stringify Text Int := ⟨jsonString, toDecimal⟩

theorem jsonText_documented : jsonText.Documented where
  string_injective s t same := by
    have bodies := (List.cons.inj same).2
    exact flatMap_escapeChar_injective (List.append_cancel_right bodies)
  string_literal s := ⟨_, rfl, skipString_jsonString s⟩
  number_injective := toDecimal_injective
  number_nonempty n := by
    have digits := Nat.toDigits_ne_nil (b := 10) (n := n.natAbs)
    simp only [jsonText, toDecimal]
    split_ifs
    · exact List.cons_ne_nil _ _
    · exact digits
  number_literal n c mem := by
    have codes : ∀ v < 58, 48 ≤ v → Char.ofNat v ∈ "0123456789+-.e".toList := by decide
    have digit : ∀ d ∈ Nat.toDigits 10 n.natAbs, d ∈ "0123456789+-.e".toList := by
      intro d mem
      have decimal := List.all_eq_true.mp (all_isDigit_toDigits n.natAbs) d mem
      simp only [isDigit, Bool.and_eq_true, decide_eq_true_eq] at decimal
      rw [← Char.ofNat_toNat d]
      exact codes d.toNat (by omega) decimal.1
    simp only [jsonText, toDecimal] at mem
    split_ifs at mem
    · rcases List.mem_cons.mp mem with rfl | mem
      · decide
      · exact digit c mem
    · exact digit c mem

/-- `{ "b": 1, "a": [2, "x"] }`, with its fields in either order. -/
def sampleValue (swapped : Bool) : JsonValue Text Int :=
  let b := ("b".toList, JsonValue.num 1)
  let a := ("a".toList, JsonValue.arr [.num 2, .str "x".toList])
  .obj (if swapped then [a, b] else [b, a])

/-- The same with its array turned around. -/
def turnedValue : JsonValue Text Int :=
  .obj [("b".toList, .num 1), ("a".toList, .arr [.str "x".toList, .num 2])]

theorem canonicalJSON_sampleValue :
    canonicalJSON jsonText (sampleValue false) = "\x7b\"a\":[2,\"x\"],\"b\":1\x7d".toList ∧
    SameValue (sampleValue false) (sampleValue true) ∧
    ¬ SameValue (sampleValue false) turnedValue := by
  have elements : ∀ v ∈ [JsonValue.num 2, .str "x".toList],
      (v : JsonValue Text Int).DistinctKeys := by
    intro v mem
    rcases List.mem_cons.mp mem with rfl | mem
    · exact .num 2
    · rw [List.mem_singleton.mp mem]
      exact .str _
  have sample : ∀ swapped, (sampleValue swapped).DistinctKeys := by
    intro swapped
    cases swapped with
    | false =>
        refine .obj (by decide) fun f mem => ?_
        rcases List.mem_cons.mp mem with rfl | mem
        · exact .num 1
        · rw [List.mem_singleton.mp mem]
          exact .arr elements
    | true =>
        refine .obj (by decide) fun f mem => ?_
        rcases List.mem_cons.mp mem with rfl | mem
        · exact .arr elements
        · rw [List.mem_singleton.mp mem]
          exact .num 1
  have turned : turnedValue.DistinctKeys := by
    refine .obj (by decide) fun f mem => ?_
    rcases List.mem_cons.mp mem with rfl | mem
    · exact .num 1
    · rw [List.mem_singleton.mp mem]
      refine .arr fun v mem => elements v ?_
      simpa [or_comm] using mem
  refine ⟨by decide +kernel, ?_, ?_⟩
  · refine (canonicalJSON_eq_iff jsonText_documented (sample false) (sample true)).mp ?_
    decide +kernel
  · intro same
    have texts := (canonicalJSON_eq_iff jsonText_documented (sample false) turned).mpr same
    exact absurd texts (by decide +kernel)

end Sdk

end AgentProof
