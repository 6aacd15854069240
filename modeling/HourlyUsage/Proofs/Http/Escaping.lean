import HourlyUsage.Http.Message
import HourlyUsage.Proofs.Text.Lines
import HourlyUsage.Proofs.Text.Utf8
/-!
# Percent-encoding

A text that is written with percent-encoded octets is read back, and so are the parameters of a
query that are written one after the other: what is encoded holds none of the marks between them.

Sources: the decoding of targets and parameters that comes before `list_hdfs_stats`.

Results:
* `decodeLossy_points`: the octets of a text are read back without losses.
* `decodeText_encodeText`: an encoded text is read back.
* `parameters_spell`: so are the parameters of a query.
-/
namespace HourlyUsage

namespace Utf8

theorem decodeLossyFrom_of_decodeFrom {s : State} {pos : Nat} {acc t : Text} {bytes : Bytes}
    (h : decodeFrom s pos acc bytes = .ok t) : decodeLossyFrom s acc bytes = t := by
  induction bytes generalizing s pos acc with
  | nil =>
    cases s with
    | between => exact Except.ok.inj h
    | inside owed low high value seen lead => cases h
  | cons b rest ih =>
    rw [decodeFrom] at h
    unfold decodeLossyFrom
    cases hstep : step s b with
    | emit c => rw [hstep] at h; exact ih h
    | move s' => rw [hstep] at h; exact ih h
    | refuse f => rw [hstep] at h; cases h

/-- The octets of a text are read back. -/
theorem decodeLossy_points {t : Text} (ht : Encodable t) : decodeLossy (points t) = t :=
  decodeLossyFrom_of_decodeFrom (decode_encode (encode_of_encodable ht))

theorem encodePoint_of_lt {c : CodePoint} (hc : c.val < 0x80) :
    encodePoint c = [UInt8.ofNat c.val] := if_pos hc

theorem points_append (t u : Text) : points (t ++ u) = points t ++ points u :=
  List.flatMap_append

end Utf8

namespace Http

open Utf8 (points encodePoint Encodable)

/-! ## Octets -/

/-- Octets that can stand for themselves: they are ASCII and no percent signs. -/
def Harmless (isPlain : UInt8 → Bool) : Prop :=
  ∀ b, isPlain b = true → b.toNat < 0x80 ∧ b ≠ percentSign

def escapeOctet (isPlain : UInt8 → Bool) (b : UInt8) : Text :=
  if isPlain b then [CodePoint.ofNat b.toNat]
  else [0x25, upperDigit (b.toNat / 16), upperDigit (b.toNat % 16)]

theorem percentDecode_cons_of_ne {b : UInt8} (hb : b ≠ percentSign) (rest : Bytes) :
    percentDecode (b :: rest) = b :: percentDecode rest := by
  match rest with
  | [] => rfl
  | [_] => rfl
  | _ :: _ :: _ => rw [percentDecode, if_neg hb]

theorem upperDigit_eq : ∀ d < 16, (upperDigit d).val < 0x80 ∧
    Json.hexDigit? (CodePoint.ofNat (UInt8.ofNat (upperDigit d).val).toNat) = some d := by
  decide

theorem octetOfDigits?_of_octet (b : UInt8) :
    octetOfDigits? (UInt8.ofNat (upperDigit (b.toNat / 16)).val)
      (UInt8.ofNat (upperDigit (b.toNat % 16)).val) = some b := by
  have hb := b.toNat_lt
  have hhigh := (upperDigit_eq (b.toNat / 16) (by omega)).2
  have hlow := (upperDigit_eq (b.toNat % 16) (by omega)).2
  rw [octetOfDigits?, hhigh, hlow]
  dsimp only
  rw [Nat.div_add_mod, UInt8.ofNat_toNat]

section

variable {isPlain : UInt8 → Bool}

theorem percentDecode_escapeOctet (hplain : Harmless isPlain) (b : UInt8) (rest : Bytes) :
    percentDecode (points (escapeOctet isPlain b) ++ rest) = b :: percentDecode rest := by
  have hb := b.toNat_lt
  unfold escapeOctet
  split
  · next hself =>
    obtain ⟨hascii, hne⟩ := hplain b hself
    have hval : (CodePoint.ofNat b.toNat).val = b.toNat := by
      rw [CodePoint.ofNat, dif_pos (by omega)]
    rw [Utf8.points_cons, Utf8.encodePoint_of_lt (hval.symm ▸ hascii), hval, UInt8.ofNat_toNat]
    exact percentDecode_cons_of_ne hne rest
  · have hhigh := (upperDigit_eq (b.toNat / 16) (by omega)).1
    have hlow := (upperDigit_eq (b.toNat % 16) (by omega)).1
    have hpoints : points [0x25, upperDigit (b.toNat / 16), upperDigit (b.toNat % 16)] =
        [percentSign, UInt8.ofNat (upperDigit (b.toNat / 16)).val,
          UInt8.ofNat (upperDigit (b.toNat % 16)).val] := by
      rw [Utf8.points_cons, Utf8.points_cons, Utf8.points_cons, Utf8.encodePoint_of_lt hhigh,
        Utf8.encodePoint_of_lt hlow]
      rfl
    rw [hpoints]
    simp only [List.cons_append, List.nil_append]
    rw [percentDecode, if_pos rfl, octetOfDigits?_of_octet]

theorem percentDecode_escaped (hplain : Harmless isPlain) (bytes : Bytes) :
    percentDecode (points (bytes.flatMap (escapeOctet isPlain))) = bytes := by
  induction bytes with
  | nil => rfl
  | cons b rest ih =>
    rw [List.flatMap_cons, Utf8.points_append, percentDecode_escapeOctet hplain, ih]

/-- What is encoded is read back. -/
theorem decodeText_encodeText (hplain : Harmless isPlain) {t : Text} (ht : Encodable t) :
    decodeText (encodeText isPlain t) = t := by
  have hdecode : percentDecode (points (encodeText isPlain t)) = points t :=
    percentDecode_escaped hplain (points t)
  rw [decodeText, ← points, hdecode, Utf8.decodeLossy_points ht]

/-! ## The marks between encoded texts -/

theorem mem_encodeText {t : Text} {c : CodePoint} (hc : c ∈ encodeText isPlain t) :
    c = 0x25 ∨ (∃ d < 16, c = upperDigit d) ∨
      ∃ b, isPlain b = true ∧ c = CodePoint.ofNat b.toNat := by
  obtain ⟨b, -, hb⟩ := List.mem_flatMap.1 hc
  have hlt := b.toNat_lt
  split at hb
  · next hself => exact .inr (.inr ⟨b, hself, List.mem_singleton.1 hb⟩)
  · simp only [List.mem_cons, List.not_mem_nil, or_false] at hb
    rcases hb with rfl | rfl | rfl
    · exact .inl rfl
    · exact .inr (.inl ⟨_, by omega, rfl⟩)
    · exact .inr (.inl ⟨_, by omega, rfl⟩)

theorem encodeText_ascii (hplain : Harmless isPlain) {t : Text} {c : CodePoint}
    (hc : c ∈ encodeText isPlain t) : c.val < 0x80 := by
  rcases mem_encodeText hc with rfl | ⟨d, hd, rfl⟩ | ⟨b, hb, rfl⟩
  · decide
  · exact (upperDigit_eq d hd).1
  · have hlt := (hplain b hb).1
    rw [CodePoint.ofNat, dif_pos (by omega)]
    exact hlt

end

/-- Letters, digits and the marks that need not be encoded anywhere behind the host. -/
def isUnreserved (b : UInt8) : Bool :=
  let n := b.toNat
  (0x2D ≤ n && n ≤ 0x39) || (0x41 ≤ n && n ≤ 0x5A) || (0x61 ≤ n && n ≤ 0x7A) || n = 0x5F || n = 0x7E

theorem harmless_isUnreserved : Harmless isUnreserved := by
  intro b hb
  simp only [isUnreserved, Bool.or_eq_true, Bool.and_eq_true, decide_eq_true_eq] at hb
  refine ⟨by omega, ?_⟩
  rintro rfl
  exact absurd hb (by decide)

/-- The marks that cut a target into pieces, and the one for a blank. -/
def marks : List CodePoint := [0x26, 0x2B, 0x3D, 0x3F]

theorem mark_not_mem {c : CodePoint} (hc : c ∈ marks) (t : Text) :
    c ∉ encodeText isUnreserved t := by
  intro hmem
  have hdigits : ∀ d < 16, upperDigit d ∉ marks := by decide
  rcases mem_encodeText hmem with rfl | ⟨d, hd, rfl⟩ | ⟨b, hb, rfl⟩
  · exact absurd hc (by decide)
  · exact hdigits d hd hc
  · have hlt := (harmless_isUnreserved b hb).1
    have hval : (CodePoint.ofNat b.toNat).val = b.toNat := by
      rw [CodePoint.ofNat, dif_pos (by omega)]
    have hvals : b.toNat ∈ marks.map Fin.val := hval ▸ List.mem_map_of_mem hc
    simp only [isUnreserved, Bool.or_eq_true, Bool.and_eq_true, decide_eq_true_eq] at hb
    simp [marks] at hvals
    omega

/-! ## Queries -/

def spellParameter (parameter : Text × Text) : Text :=
  encodeText isUnreserved parameter.1 ++ 0x3D :: encodeText isUnreserved parameter.2

def spell (parameters : List (Text × Text)) : Text :=
  Text.join [0x26] (parameters.map spellParameter)

theorem decodeParameter_encodeText {t : Text} (ht : Encodable t) :
    decodeParameter (encodeText isUnreserved t) = t := by
  have hkept : ((encodeText isUnreserved t).map fun c => if c = 0x2B then 0x20 else c) =
      encodeText isUnreserved t := by
    rw [List.map_congr_left (g := id), List.map_id]
    intro c hc
    exact if_neg fun hplus => mark_not_mem (by decide) t (hplus ▸ hc)
  rw [decodeParameter, hkept, decodeText_encodeText harmless_isUnreserved ht]

theorem octetPoints_of_ascii {t : Text} (ht : ∀ c ∈ t, c.val < 0x80) : octetPoints t = t := by
  induction t with
  | nil => rfl
  | cons c rest ih =>
    obtain ⟨hc, hrest⟩ := List.forall_mem_cons.1 ht
    have hpoint : CodePoint.ofNat (UInt8.ofNat c.val).toNat = c := by
      rw [UInt8.toNat_ofNat', Nat.mod_eq_of_lt (by omega), Utf8.ofNat_val]
    rw [octetPoints, List.flatMap_cons, Utf8.encodePoint_of_lt hc, List.map_append]
    exact congr (congrArg List.cons hpoint) (ih hrest)

theorem spellParameter_ascii (parameter : Text × Text) :
    ∀ c ∈ spellParameter parameter, c.val < 0x80 := by
  rw [spellParameter, List.forall_mem_append, List.forall_mem_cons]
  exact ⟨fun c hc => encodeText_ascii harmless_isUnreserved hc, by decide,
    fun c hc => encodeText_ascii harmless_isUnreserved hc⟩

theorem ampersand_not_mem (parameter : Text × Text) : 0x26 ∉ spellParameter parameter := by
  rw [spellParameter, List.mem_append, List.mem_cons, not_or, not_or]
  exact ⟨mark_not_mem (by decide) _, by decide, mark_not_mem (by decide) _⟩

/-- **Parameters are read back as they were spelled**, in order and whatever texts they are. -/
theorem parameters_spell {fields : List (Text × Text)}
    (hfields : ∀ f ∈ fields, Encodable f.1 ∧ Encodable f.2) :
    parameters (spell fields) = fields := by
  by_cases hempty : fields = []
  · subst hempty
    rfl
  · have hascii : ∀ c ∈ spell fields, c.val < 0x80 := by
      refine Text.forall_mem_join (P := fun c => c.val < 0x80)
        (List.forall_mem_singleton.2 (by decide)) fun piece hpiece => ?_
      obtain ⟨f, -, rfl⟩ := List.mem_map.1 hpiece
      exact spellParameter_ascii f
    have hsplit : Text.splitAll 0x26 (spell fields) = fields.map spellParameter := by
      refine Text.splitAll_join (by simpa using hempty) fun piece hpiece => ?_
      obtain ⟨f, -, rfl⟩ := List.mem_map.1 hpiece
      exact ampersand_not_mem f
    have hpieces : (fields.map spellParameter).filter (fun piece => !piece.isEmpty) =
        fields.map spellParameter := by
      rw [List.filter_eq_self]
      intro piece hpiece
      obtain ⟨f, -, rfl⟩ := List.mem_map.1 hpiece
      simp [spellParameter]
    rw [parameters, octetPoints_of_ascii hascii, hsplit, hpieces, List.map_map]
    conv => rhs; rw [← List.map_id fields]
    refine List.map_congr_left fun f hf => ?_
    obtain ⟨hname, hvalue⟩ := hfields f hf
    have hcut : Text.cut? 0x3D (spellParameter f) =
        some (encodeText isUnreserved f.1, encodeText isUnreserved f.2) :=
      Text.cut?_append (mark_not_mem (by decide) _) _
    rw [Function.comp_apply, hcut]
    dsimp only
    rw [decodeParameter_encodeText hname, decodeParameter_encodeText hvalue]
    rfl

end Http

end HourlyUsage
