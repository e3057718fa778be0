import Remit.Script.Template

/-!
The templates as fixed bytes around a hash. Length and fixed bytes decide whether a script is
framed in this way, and the bytes between are then its hash, so that a script is recognised as a
kind just when the template of that kind makes it.
-/

namespace Remit.Script

open Wire (Script)

/-- A script that holds a hash between fixed bytes. -/
def Frames (front back hash : Bytes) (script : Script) : Prop :=
  hash.length = hashLength ∧ front ++ (hash ++ back) = script

section

variable {front back hash hash' : Bytes} {script : Script}

theorem exists_frames_iff :
    (∃ hash, Frames front back hash script) ↔
      script.length = front.length + hashLength + back.length ∧
        script.take front.length = front ∧
        script.drop (front.length + hashLength) = back := by
  constructor
  · rintro ⟨hash, length, rfl⟩
    refine ⟨?_, List.take_left, ?_⟩
    · simp [length, Nat.add_assoc]
    · rw [← List.append_assoc]
      exact List.drop_left' (by simp [length])
  · rintro ⟨length, before, after⟩
    have behind : (script.drop front.length).drop hashLength = back := by
      rw [List.drop_drop, after]
    refine ⟨(script.drop front.length).take hashLength, ?_, ?_⟩
    · rw [List.length_take_of_le]
      rw [List.length_drop]
      omega
    · calc
        front ++ ((script.drop front.length).take hashLength ++ back)
          = front ++ script.drop front.length := by
            rw [← behind, List.take_append_drop]
        _ = script.take front.length ++ script.drop front.length := by rw [before]
        _ = script := List.take_append_drop _ _

theorem Frames.hash_eq (frames : Frames front back hash script)
    (frames' : Frames front back hash' script) : hash = hash' :=
  List.append_cancel_right (List.append_cancel_left (frames.2.trans frames'.2.symm))

theorem push_hash (length : hash.length = hashLength) : push hash = 20 :: hash := by
  rw [push, length]
  rfl

theorem payToPubkeyHash_eq_ok_iff :
    payToPubkeyHash hash = .ok script ↔ Frames [0x76, 0xA9, 20] [0x88, 0xAC] hash script := by
  unfold payToPubkeyHash Frames
  split
  case isTrue length =>
    rw [push_hash length, Except.ok.injEq, and_iff_right length]
    simp [Opcode.dup, Opcode.hash160, Opcode.equalVerify, Opcode.checkSig]
  case isFalse length => simp [length]

theorem payToScriptHash_eq_ok_iff :
    payToScriptHash hash = .ok script ↔ Frames [0xA9, 20] [0x87] hash script := by
  unfold payToScriptHash Frames
  split
  case isTrue length =>
    rw [push_hash length, Except.ok.injEq, and_iff_right length]
    simp [Opcode.hash160, Opcode.equal]
  case isFalse length => simp [length]

theorem kind_eq_pubkeyHash_iff :
    kind script = .pubkeyHash ↔ ∃ hash, payToPubkeyHash hash = .ok script := by
  simp only [payToPubkeyHash_eq_ok_iff, exists_frames_iff]
  unfold kind
  split
  case isTrue framed => exact iff_of_true rfl framed
  case isFalse unframed =>
    refine iff_of_false ?_ unframed
    split <;> simp

theorem kind_eq_scriptHash_iff :
    kind script = .scriptHash ↔ ∃ hash, payToScriptHash hash = .ok script := by
  simp only [payToScriptHash_eq_ok_iff, exists_frames_iff]
  unfold kind
  split
  case isTrue framed =>
    -- A longer script, so no hash between the shorter frame.
    refine iff_of_false (by simp) ?_
    rintro ⟨length, -⟩
    rw [framed.1] at length
    cases length
  case isFalse =>
    split
    case isTrue framed => exact iff_of_true rfl framed
    case isFalse unframed => exact iff_of_false (by simp) unframed

theorem payToPubkeyHash_injective (made : payToPubkeyHash hash = .ok script)
    (made' : payToPubkeyHash hash' = .ok script) : hash = hash' :=
  (payToPubkeyHash_eq_ok_iff.mp made).hash_eq (payToPubkeyHash_eq_ok_iff.mp made')

theorem payToScriptHash_injective (made : payToScriptHash hash = .ok script)
    (made' : payToScriptHash hash' = .ok script) : hash = hash' :=
  (payToScriptHash_eq_ok_iff.mp made).hash_eq (payToScriptHash_eq_ok_iff.mp made')

end

/-- Each kind is the image of its template, which no other script and no other hash shares. -/
theorem kinds_are_templates (script : Script) :
    (kind script = .pubkeyHash ↔
      ∃ hash : Bytes, hash.length = hashLength ∧ payToPubkeyHash hash = .ok script) ∧
    (kind script = .scriptHash ↔
      ∃ hash : Bytes, hash.length = hashLength ∧ payToScriptHash hash = .ok script) ∧
    (kind script = .unknown ↔
      (¬ ∃ hash, payToPubkeyHash hash = .ok script) ∧
        ¬ ∃ hash, payToScriptHash hash = .ok script) ∧
    (∀ hash hash', payToPubkeyHash hash = .ok script → payToPubkeyHash hash' = .ok script →
      hash = hash') ∧
    (∀ hash hash', payToScriptHash hash = .ok script → payToScriptHash hash' = .ok script →
      hash = hash') ∧
    ∀ hash hash', payToPubkeyHash hash = .ok script → payToScriptHash hash' ≠ .ok script := by
  refine ⟨?pubkeyHash, ?scriptHash, ?unknown, fun _ _ => payToPubkeyHash_injective,
    fun _ _ => payToScriptHash_injective, ?apart⟩
  case pubkeyHash =>
    rw [kind_eq_pubkeyHash_iff]
    exact exists_congr fun hash =>
      (and_iff_right_of_imp fun made => (payToPubkeyHash_eq_ok_iff.mp made).1).symm
  case scriptHash =>
    rw [kind_eq_scriptHash_iff]
    exact exists_congr fun hash =>
      (and_iff_right_of_imp fun made => (payToScriptHash_eq_ok_iff.mp made).1).symm
  case unknown =>
    rw [← kind_eq_pubkeyHash_iff, ← kind_eq_scriptHash_iff]
    cases kind script <;> decide
  case apart =>
    intro hash hash' made made'
    have pubkey := kind_eq_pubkeyHash_iff.mpr ⟨hash, made⟩
    have scriptHash := kind_eq_scriptHash_iff.mpr ⟨hash', made'⟩
    rw [pubkey] at scriptHash
    cases scriptHash

/-- A hash that holds the fixed bytes of both templates is still the only one in its script. -/
theorem kinds_are_templates_look_alike :
    let hash : Bytes := [0xA9, 20] ++ List.replicate 16 0x87 ++ [0x88, 0xAC]
    let script : Script := [0x76, 0xA9, 20] ++ (hash ++ [0x88, 0xAC])
    payToPubkeyHash hash = .ok script ∧ kind script = .pubkeyHash ∧
      (∀ hash', payToPubkeyHash hash' = .ok script → hash' = hash) ∧
      ∀ hash', payToScriptHash hash' ≠ .ok script := by
  intro hash script
  have made : payToPubkeyHash hash = .ok script := rfl
  obtain ⟨recognised, -, -, unique, -, apart⟩ := kinds_are_templates script
  exact ⟨made, recognised.mpr ⟨hash, by decide, made⟩,
    fun hash' made' => unique hash' hash made' made, fun hash' => apart hash hash' made⟩

end Remit.Script
