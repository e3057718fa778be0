import Remit.Author.Collaborators
import Remit.Proofs.Address.Base58
import Remit.Proofs.Script.Template

/-!
An address denotes a version and a hash, and a supported version denotes a template. So an
accepted text determines its script, and the script determines the text up to the network.
-/

namespace Remit

open Wire (Script)

namespace Script

def Kind.length : Kind → Nat
  | .pubkeyHash => 25
  | .scriptHash => 23
  | .unknown => 0

end Script

namespace Address

open Script (Kind)

/-- The supported versions, two for each kind, and the template of the kind. -/
inductive Supported : Int → Kind → (Bytes → Except Script.TemplateError Script) → Prop
  | mainnetPubkeyHash : Supported 0x00 .pubkeyHash Script.payToPubkeyHash
  | testnetPubkeyHash : Supported 0x6F .pubkeyHash Script.payToPubkeyHash
  | mainnetScriptHash : Supported 0x05 .scriptHash Script.payToScriptHash
  | testnetScriptHash : Supported 0xC4 .scriptHash Script.payToScriptHash

inductive Refusal : AddressError → Prop
  | character (c : Char) : Refusal (.character c)
  | tooShort : Refusal .tooShort
  | checksum : Refusal .checksum
  | payloadLength (length : Nat) : Refusal (.payloadLength length)
  | unsupportedVersion (version : UInt8) : Refusal (.unsupportedVersion version)

variable {version version' : Int} {kind kind' : Kind} {hash hash' : Bytes} {address : String}
  {template template' : Bytes → Except Script.TemplateError Script} {script : Script}

theorem ofHash_eq_ok_iff :
    ofHash version hash = .ok address ↔
      hash.length = Script.hashLength ∧ (0 ≤ version ∧ version < 256) ∧
        Base58Check.encode (UInt8.ofNat version.toNat :: hash) = address := by
  rw [ofHash]
  split_ifs with length range <;> simp_all

theorem decode_ofHash (spelled : ofHash version hash = .ok address) :
    Base58Check.decode address = .ok (UInt8.ofNat version.toNat :: hash) :=
  Base58Check.decode_eq_ok_iff.mpr (ofHash_eq_ok_iff.mp spelled).2.2

theorem ofHash_injective (spelled : ofHash version hash = .ok address)
    (spelled' : ofHash version' hash' = .ok address) : version = version' ∧ hash = hash' := by
  have same := (decode_ofHash spelled).symm.trans (decode_ofHash spelled')
  simp only [Except.ok.injEq, List.cons.injEq] at same
  obtain ⟨byte, rfl⟩ := same
  obtain ⟨-, range, -⟩ := ofHash_eq_ok_iff.mp spelled
  obtain ⟨-, range', -⟩ := ofHash_eq_ok_iff.mp spelled'
  have numbers := congrArg UInt8.toNat byte
  rw [UInt8.toNat_ofNat_of_lt' (by change _ < 256; omega),
    UInt8.toNat_ofNat_of_lt' (by change _ < 256; omega)] at numbers
  exact ⟨by omega, rfl⟩

namespace Supported

theorem exists_script (supported : Supported version kind template)
    (length : hash.length = Script.hashLength) :
    ∃ script, template hash = .ok script ∧ Script.kind script = kind ∧
      script.length = kind.length := by
  have pubkey : ∃ script, Script.payToPubkeyHash hash = .ok script ∧
      Script.kind script = .pubkeyHash ∧ script.length = 25 := by
    have made := Script.payToPubkeyHash_eq_ok_iff.mpr ⟨length, rfl⟩
    exact ⟨_, made, Script.kind_eq_pubkeyHash_iff.mpr ⟨hash, made⟩,
      by simp [length, Script.hashLength]⟩
  have script : ∃ script, Script.payToScriptHash hash = .ok script ∧
      Script.kind script = .scriptHash ∧ script.length = 23 := by
    have made := Script.payToScriptHash_eq_ok_iff.mpr ⟨length, rfl⟩
    exact ⟨_, made, Script.kind_eq_scriptHash_iff.mpr ⟨hash, made⟩,
      by simp [length, Script.hashLength]⟩
  cases supported with
  | mainnetPubkeyHash => exact pubkey
  | testnetPubkeyHash => exact pubkey
  | mainnetScriptHash => exact script
  | testnetScriptHash => exact script

theorem template_injective (supported : Supported version kind template)
    (made : template hash = .ok script) (made' : template hash' = .ok script) : hash = hash' := by
  cases supported with
  | mainnetPubkeyHash => exact Script.payToPubkeyHash_injective made made'
  | testnetPubkeyHash => exact Script.payToPubkeyHash_injective made made'
  | mainnetScriptHash => exact Script.payToScriptHash_injective made made'
  | testnetScriptHash => exact Script.payToScriptHash_injective made made'

theorem same_template (supported : Supported version kind template)
    (supported' : Supported version' kind template') : template = template' := by
  cases supported <;> cases supported' <;> rfl

end Supported

theorem toScript_of_decode {byte : UInt8}
    (decoded : Base58Check.decode address = .ok (byte :: hash))
    (length : hash.length = Script.hashLength) :
    toScript address =
      if byte = mainnetPubkeyHash ∨ byte = testnetPubkeyHash then
        (Script.payToPubkeyHash hash).mapError .template
      else if byte = mainnetScriptHash ∨ byte = testnetScriptHash then
        (Script.payToScriptHash hash).mapError .template
      else .error (.unsupportedVersion byte) := by
  rw [toScript, decoded]
  simp only [bind, Except.bind, length]
  rfl

theorem toScript_of_length {byte : UInt8}
    (decoded : Base58Check.decode address = .ok (byte :: hash))
    (length : hash.length ≠ Script.hashLength) :
    toScript address = .error (.payloadLength (hash.length + 1)) := by
  rw [toScript, decoded]
  simp only [bind, Except.bind, if_pos length]
  rfl

theorem toScript_of_unsupported {byte : UInt8}
    (decoded : Base58Check.decode address = .ok (byte :: hash))
    (length : hash.length = Script.hashLength)
    (unsupported : ¬ ∃ kind template, Supported byte.toNat kind template) :
    toScript address = .error (.unsupportedVersion byte) := by
  have pubkey : ¬ (byte = mainnetPubkeyHash ∨ byte = testnetPubkeyHash) := by
    rintro (rfl | rfl)
    · exact unsupported ⟨_, _, .mainnetPubkeyHash⟩
    · exact unsupported ⟨_, _, .testnetPubkeyHash⟩
  have script : ¬ (byte = mainnetScriptHash ∨ byte = testnetScriptHash) := by
    rintro (rfl | rfl)
    · exact unsupported ⟨_, _, .mainnetScriptHash⟩
    · exact unsupported ⟨_, _, .testnetScriptHash⟩
  rw [toScript_of_decode decoded length, if_neg pubkey, if_neg script]

theorem toScript_ofHash (supported : Supported version kind template)
    (spelled : ofHash version hash = .ok address) :
    toScript address = (template hash).mapError .template := by
  have length := (ofHash_eq_ok_iff.mp spelled).1
  have dispatch := toScript_of_decode (decode_ofHash spelled) length
  cases supported <;> exact dispatch

theorem ofHash_of_decode {byte : UInt8}
    (decoded : Base58Check.decode address = .ok (byte :: hash))
    (length : hash.length = Script.hashLength) : ofHash byte.toNat hash = .ok address := by
  have below := byte.toNat_lt
  refine ofHash_eq_ok_iff.mpr ⟨length, by omega, ?_⟩
  rw [Int.toNat_natCast, UInt8.ofNat_toNat]
  exact Base58Check.decode_eq_ok_iff.mp decoded

/-- What a text denotes by a supported version, if anything. -/
structure Denotes (address : String) (version : Int) (kind : Kind)
    (template : Bytes → Except Script.TemplateError Script) (hash : Bytes) : Prop where
  supported : Supported version kind template
  length : hash.length = Script.hashLength
  spelled : ofHash version hash = .ok address

theorem exists_denotes_or_refusal (address : String) :
    (∃ version kind template hash, Denotes address version kind template hash) ∨
      ∃ error, toScript address = .error error ∧ Refusal error := by
  cases decoded : Base58Check.decode address with
  | error error =>
      right
      refine ⟨error, by rw [toScript, decoded]; rfl, ?_⟩
      obtain ⟨c, rfl⟩ | rfl | rfl := Base58Check.decode_eq_error decoded
      · exact .character c
      · exact .tooShort
      · exact .checksum
  | ok payload =>
      cases payload with
      | nil => exact .inr ⟨.payloadLength 0, by rw [toScript, decoded]; rfl, .payloadLength 0⟩
      | cons byte hash =>
          by_cases length : hash.length = Script.hashLength
          case neg => exact .inr ⟨_, toScript_of_length decoded length, .payloadLength _⟩
          by_cases known : ∃ kind template, Supported byte.toNat kind template
          · obtain ⟨kind, template, supported⟩ := known
            exact .inl ⟨_, kind, template, hash, supported, length,
              ofHash_of_decode decoded length⟩
          · exact .inr ⟨_, toScript_of_unsupported decoded length known,
              .unsupportedVersion byte⟩

namespace Denotes

theorem toScript (denotes : Denotes address version kind template hash)
    (made : template hash = .ok script) : Address.toScript address = .ok script := by
  rw [toScript_ofHash denotes.supported denotes.spelled, made]
  rfl

theorem iff_accepted :
    (∃ script, Address.toScript address = .ok script) ↔
      ∃ version kind template hash, Denotes address version kind template hash := by
  constructor
  · rintro ⟨script, accepted⟩
    obtain denotes | ⟨error, refused, -⟩ := exists_denotes_or_refusal address
    · exact denotes
    · rw [refused] at accepted
      cases accepted
  · rintro ⟨version, kind, template, hash, denotes⟩
    obtain ⟨script, made, -⟩ := denotes.supported.exists_script denotes.length
    exact ⟨script, denotes.toScript made⟩

theorem same_script {other : String} (denotes : Denotes address version kind template hash)
    (denotes' : Denotes other version' kind' template' hash')
    (same : Address.toScript address = Address.toScript other) :
    kind = kind' ∧ template = template' ∧ hash = hash' := by
  obtain ⟨script, made, scriptKind, -⟩ := denotes.supported.exists_script denotes.length
  obtain ⟨script', made', scriptKind', -⟩ := denotes'.supported.exists_script denotes'.length
  rw [denotes.toScript made, denotes'.toScript made', Except.ok.injEq] at same
  subst same
  obtain rfl : kind = kind' := scriptKind.symm.trans scriptKind'
  obtain rfl := denotes.supported.same_template denotes'.supported
  exact ⟨rfl, rfl, denotes.supported.template_injective made made'⟩

end Denotes

end Address

namespace Funding.Change

theorem ofAddress_of_toScript {address : String} {script : Script}
    (accepted : Address.toScript address = .ok script) (nonempty : script ≠ []) :
    ofAddress address = .ok ⟨script, Script.defaultVersion, nonempty⟩ := by
  rw [ofAddress, accepted]
  simp [bind, Except.bind, ofScript, nonempty]

end Funding.Change

namespace Address

open Script (Kind)
open Author (ChangeSource)
open Funding (Change)

/-- Texts that denote something are the accepted ones, and they are told apart by what they denote;
only the network is lost in the script. -/
theorem scripts_of_addresses (address : String) :
    ((∃ script, toScript address = .ok script) ↔
      ∃ version kind template hash, Denotes address version kind template hash) ∧
    (∀ version kind template hash, Denotes address version kind template hash →
      (∀ version' hash', ofHash version' hash' = .ok address → version' = version ∧ hash' = hash) ∧
      ∃ script change, template hash = .ok script ∧ toScript address = .ok script ∧
        Script.kind script = kind ∧ Change.ofAddress address = .ok change ∧
        (ChangeSource.ofChange change).script = .ok (script, Script.defaultVersion) ∧
        (ChangeSource.ofChange change).scriptSize = .ok script.length ∧
        script.length = kind.length) ∧
    ((¬ ∃ version kind template hash, Denotes address version kind template hash) →
      ∃ error, toScript address = .error error ∧ Refusal error) ∧
    ∀ other script, other ≠ address →
      toScript address = .ok script → toScript other = .ok script →
      ∃ version version' kind template hash, version ≠ version' ∧
        Denotes address version kind template hash ∧
        Denotes other version' kind template hash := by
  refine ⟨Denotes.iff_accepted, ?denoted, ?refused, ?shared⟩
  case denoted =>
    intro version kind template hash denotes
    refine ⟨fun version' hash' spelled => ofHash_injective spelled denotes.spelled, ?_⟩
    obtain ⟨script, made, scriptKind, size⟩ := denotes.supported.exists_script denotes.length
    have accepted := denotes.toScript made
    have nonempty : script ≠ [] := by
      rintro rfl
      cases denotes.supported <;> exact absurd scriptKind (by decide)
    exact ⟨script, ⟨script, _, nonempty⟩, made, accepted, scriptKind,
      Change.ofAddress_of_toScript accepted nonempty, rfl, rfl, size⟩
  case refused =>
    intro nothing
    exact (exists_denotes_or_refusal address).resolve_left nothing
  case shared =>
    intro other script different accepted accepted'
    obtain ⟨version, kind, template, hash, denotes⟩ := Denotes.iff_accepted.mp ⟨script, accepted⟩
    obtain ⟨version', kind', template', hash', denotes'⟩ :=
      Denotes.iff_accepted.mp ⟨script, accepted'⟩
    obtain ⟨rfl, rfl, rfl⟩ := denotes.same_script denotes' (accepted.trans accepted'.symm)
    refine ⟨version, version', kind, template, hash, ?_, denotes, denotes'⟩
    -- Version and hash spell the text, so with one version there is one text.
    rintro rfl
    exact different (Except.ok.inj (denotes'.spelled.symm.trans denotes.spelled))

/-- The hash of zeros has an address on either network, with one script, and a text with a zero in
it is refused. -/
theorem scripts_of_addresses_hash_of_zeros :
    let mainnet := "1111111111111111111114oLvT2"
    let testnet := "mfWxJ45yp2SFn7UciZyNpvDKrzbhyfKrY8"
    (∃ script change, toScript mainnet = .ok script ∧ Script.kind script = .pubkeyHash ∧
        Change.ofAddress mainnet = .ok change ∧
        (ChangeSource.ofChange change).scriptSize = .ok script.length) ∧
      (∃ version version' kind template hash, version ≠ version' ∧
        Denotes mainnet version kind template hash ∧
        Denotes testnet version' kind template hash) ∧
      ∃ error, toScript "10" = .error error ∧ Refusal error := by
  intro mainnet testnet
  obtain ⟨-, denoted, -, shared⟩ := scripts_of_addresses mainnet
  obtain ⟨accepted, -, refused, -⟩ := scripts_of_addresses "10"
  have denotes : Denotes mainnet 0 .pubkeyHash Script.payToPubkeyHash (List.replicate 20 0) :=
    ⟨.mainnetPubkeyHash, rfl, by decide +kernel⟩
  obtain ⟨-, script, change, made, read, kind, toChange, -, size, -⟩ := denoted _ _ _ _ denotes
  have readTestnet : toScript testnet = .ok script := by
    have spelled : ofHash 0x6F (List.replicate 20 0) = .ok testnet := by
      decide +kernel
    rw [toScript_ofHash .testnetPubkeyHash spelled, made]
    rfl
  have bad : toScript "10" = .error (.character '0') := by
    decide +kernel
  refine ⟨⟨script, change, read, kind, toChange, size⟩, ?_, ?_⟩
  · exact shared testnet script (by decide) read readTestnet
  · refine refused (mt accepted.mpr ?_)
    intro ⟨script, read⟩
    rw [bad] at read
    cases read

end Address

end Remit
