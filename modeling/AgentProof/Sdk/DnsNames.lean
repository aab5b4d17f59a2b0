import AgentProof.Lib.FoldM
import AgentProof.Lib.WireName
import AgentProof.Sdk.EnsIdentity

/-!
# One name, encoded twice

The Universal Resolver is given a name in DNS wire format and a call that carries the
node of the name.  Both are made from the same text, and they name one record where
the encoded name reads back as the labels the node is hashed over.
-/

namespace AgentProof

namespace Sdk

open Js Crypto

/-- The node of a name, of its labels: the hash of the parent's node and the label's. -/
def nodeOf : List Bytes → Bytes
  | [] => List.replicate 32 0
  | label :: parent => keccak256Bytes (nodeOf parent ++ keccak256Bytes label)

/-- The labels `namehash` goes over: the empty name has none. -/
def hashedLabels (name : Text) : List Bytes :=
  if name = [] then [] else (labels name).map Utf8.encode

/-- The node in a call of `text` or `addr`. -/
def nodeOfCall (inner : Text) : Text := slice inner 10 74

/-! ## The node -/

theorem length_nodeOf (ls : List Bytes) : (nodeOf ls).length = 32 := by
  cases ls with
  | nil => rfl
  | cons label parent => exact length_keccak256Bytes _

theorem concatHex_bytesToHex (a b : Bytes) : concatHex (bytesToHex a) (bytesToHex b) = a ++ b := by
  have body : (bytesToHex a).drop 2 ++ (bytesToHex b).drop 2 = hexText (a ++ b) :=
    (hexText_append a b).symm
  rw [concatHex, body, length_hexText, Nat.mul_div_cancel_left _ (by norm_num), bytesOfHex_hexText]

/-- The fold over the labels, the last one first. -/
theorem namehash_eq (name : Text) : namehash name = bytesToHex (nodeOf (hashedLabels name)) := by
  have fold (ls : List Text) : (ls.reverse.foldl (fun node label =>
      keccak256 (concatHex node (keccak256Text label))) (bytesToHex (List.replicate 32 0))) =
        bytesToHex (nodeOf (ls.map Utf8.encode)) := by
    induction ls with
    | nil => rfl
    | cons label parent ih =>
        rw [List.reverse_cons, List.foldl_append, ih, List.foldl_cons, List.foldl_nil, keccak256Text,
          keccak256, keccak256, concatHex_bytesToHex]
        rfl
  rw [namehash, hashedLabels]
  split_ifs with none empty empty
  · rfl
  · exact absurd (List.length_eq_zero_iff.mp none) empty
  · exact absurd (List.length_eq_zero_iff.mpr empty) none
  · exact fold _

/-- A call of a selector with the node of a name first. -/
theorem nodeOfCall_append {selector : Text} (four : selector.length = 10) (name rest : Text) :
    nodeOfCall (selector ++ ((namehash name).drop 2 ++ rest)) =
      hexText (nodeOf (hashedLabels name)) := by
  have node : (namehash name).drop 2 = hexText (nodeOf (hashedLabels name)) := by
    rw [namehash_eq]
    rfl
  rw [nodeOfCall, node]
  exact slice_append four (by rw [length_hexText, length_nodeOf])

theorem length_selector (s : Text) : (slice (keccak256Text s) 0 10).length = 10 := by
  have digest := length_keccak256Bytes (Utf8.encode s)
  rw [slice, List.drop_zero, List.length_take, keccak256Text, keccak256, bytesToHex,
    List.length_cons, List.length_cons, length_hexText, digest]
  rfl

theorem nodeOfCall_text (name key : Text) :
    nodeOfCall (encodeText (namehash name) key) = hexText (nodeOf (hashedLabels name)) := by
  simp only [encodeText, List.append_assoc]
  exact nodeOfCall_append (length_selector _) name _

theorem nodeOfCall_addr (name : Text) :
    nodeOfCall (ADDR_SELECTOR ++ (namehash name).drop 2) =
      hexText (nodeOf (hashedLabels name)) := by
  have call := @nodeOfCall_append ADDR_SELECTOR (length_selector _) name []
  rwa [List.append_nil] at call

/-! ## The encoded name -/

theorem dnsLabel_eq_ok_iff {label : Text} {bytes : Bytes} :
    dnsLabel label = .ok bytes ↔
      (Utf8.encode label).length ≤ 63 ∧ WireName.frame (Utf8.encode label) = bytes := by
  rw [dnsLabel, thrown, guard_eq_ok_iff, gt_iff_lt, not_lt, Except.ok.injEq]
  rfl

theorem dnsEncode_eq_ok_iff {name encoded : Text} :
    dnsEncode name = .ok encoded ↔
      (∀ label ∈ labels name, (Utf8.encode label).length ≤ 63) ∧
        bytesToHex (WireName.encode ((labels name).map Utf8.encode)) = encoded := by
  have bytes : ((labels name).map fun label => WireName.frame (Utf8.encode label)).flatten ++ [0] =
      WireName.encode ((labels name).map Utf8.encode) := by
    rw [WireName.encode, List.flatMap_def, List.map_map]
    rfl
  rw [dnsEncode, bind_eq_ok_iff]
  simp only [FoldM.mapM_eq_ok_iff fun _ _ => dnsLabel_eq_ok_iff]
  constructor
  · rintro ⟨parts, ⟨short, rfl⟩, encodes⟩
    rw [bytes] at encodes
    exact ⟨short, Except.ok.inj encodes⟩
  · rintro ⟨short, rfl⟩
    exact ⟨_, ⟨short, rfl⟩, by rw [bytes]⟩

theorem length_encode_pos {label : Text} (nonempty : label ≠ []) :
    1 ≤ (Utf8.encode label).length := by
  obtain ⟨c, rest, rfl⟩ := List.exists_cons_of_ne_nil nonempty
  have byte := c.utf8Size_pos
  rw [Utf8.encode, List.flatMap_cons, List.length_append, List.length_map,
    String.length_utf8EncodeChar]
  omega

/-! ## The two encodings -/

/-- What the Universal Resolver is given names one node, the node of the name. -/
structure NamesOneNode (name encoded : Text) : Prop where
  parses : ∃ bytes, encoded = bytesToHex bytes ∧
    WireName.parse bytes = some (hashedLabels name, [])
  hashed : namehash name = bytesToHex (nodeOf (hashedLabels name))
  text : ∀ key, nodeOfCall (encodeText (namehash name) key) = hexText (nodeOf (hashedLabels name))
  addr : nodeOfCall (ADDR_SELECTOR ++ (namehash name).drop 2) =
    hexText (nodeOf (hashedLabels name))

theorem NamesOneNode.parse_eq {name : Text} {bytes : Bytes}
    (one : NamesOneNode name (bytesToHex bytes)) :
    WireName.parse bytes = some (hashedLabels name, []) := by
  obtain ⟨bytes', same, parsed⟩ := one.parses
  rw [bytesToHex_injective same]
  exact parsed

/-- The encodings agree on a name if and only if none of its labels is empty, or one is
so long that it is refused. -/
theorem namesOneNode_iff (name : Text) :
    (∀ encoded, dnsEncode name = .ok encoded → NamesOneNode name encoded) ↔
      [] ∉ labels name ∨ ∃ label ∈ labels name, 63 < (Utf8.encode label).length := by
  constructor
  · intro agrees
    rw [or_iff_not_imp_right]
    intro fits empty
    push Not at fits
    have parsed := (agrees _ (dnsEncode_eq_ok_iff.mpr ⟨fits, rfl⟩)).parse_eq
    obtain ⟨all, written⟩ := WireName.parse_eq_some_iff.mp parsed
    by_cases none : name = []
    · -- the empty name has one label to one encoder, and none to the other
      rw [none] at written
      exact absurd written (by decide)
    · rw [hashedLabels, if_neg none] at all
      exact absurd (all _ (List.mem_map_of_mem empty)).1 (by decide)
  · rintro (nonempty | ⟨label, mem, long⟩) encoded encodes
    · obtain ⟨short, rfl⟩ := dnsEncode_eq_ok_iff.mp encodes
      have some : name ≠ [] := by
        rintro rfl
        exact nonempty (by decide)
      have all : ∀ label ∈ (labels name).map Utf8.encode, WireName.IsLabel label := by
        intro bytes mem
        obtain ⟨label, listed, rfl⟩ := List.mem_map.mp mem
        have full : label ≠ [] := fun none => nonempty (none ▸ listed)
        exact ⟨length_encode_pos full, short label listed⟩
      have parsed := WireName.parse_encode all []
      rw [List.append_nil] at parsed
      refine ⟨⟨_, rfl, ?_⟩, namehash_eq name, nodeOfCall_text name, nodeOfCall_addr name⟩
      rw [parsed, hashedLabels, if_neg some]
    · have short := (dnsEncode_eq_ok_iff.mp encodes).1 label mem
      omega

/-- The empty name has a label to the one encoder and none to the other; of a name with
a point at its end the resolver reads one label less than is hashed. -/
theorem emptyLabels_name_another :
    (dnsEncode [] = .ok "0x0000".toList ∧ ¬ NamesOneNode [] "0x0000".toList) ∧
      dnsEncode "agent.eth.".toList = .ok "0x056167656e74036574680000".toList ∧
        ¬ NamesOneNode "agent.eth.".toList "0x056167656e74036574680000".toList := by
  have empty : "0x0000".toList = bytesToHex [0, 0] := by decide +kernel
  have dotted : "0x056167656e74036574680000".toList =
      bytesToHex (WireName.encode ((labels "agent.eth.".toList).map Utf8.encode)) := by
    decide +kernel
  refine ⟨⟨by decide +kernel, fun one => ?_⟩, by decide +kernel, fun one => ?_⟩
  · rw [empty] at one
    have written := (WireName.parse_eq_some_iff.mp one.parse_eq).2
    exact absurd written (by decide)
  · rw [dotted] at one
    have all := (WireName.parse_eq_some_iff.mp one.parse_eq).1
    exact absurd (all [] (by decide +kernel)).1 (by decide)

end Sdk

end AgentProof
