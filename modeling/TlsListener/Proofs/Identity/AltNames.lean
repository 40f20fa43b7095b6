import Mathlib.Data.List.Forall2
import TlsListener.Identity.Certificate
import TlsListener.Proofs.Network.Ip
import TlsListener.Proofs.Text.ByteOrder

/-!
# The alternative names in a summary

A summary lists the DNS names that are texts and the internet addresses of four or sixteen bytes, in
the order of the certificate, and passes over everything else. What it lists can be read off its
texts again: a DNS name and an address are told apart by the first character, the text of a DNS name
is that name, and the text of an address determines the address and so its bytes.

That a DNS name is a text is no matter of course. It is whatever bytes the certificate has there,
and where these are not in UTF-8 the name is passed over like a name of another kind.
-/

namespace TlsListener

variable {name name' : GeneralName} {text : String}

theorem text8?_eq_some_iff {bytes : Bytes} :
    Ber.text8? bytes = some text ↔ Text.utf8 text = bytes := by
  rw [Ber.text8?, String.fromUTF8?]
  constructor
  · intro found
    split at found
    · cases found
      rfl
    · cases found
  · rintro rfl
    exact dif_pos text.isValidUTF8

namespace GeneralName

/-- How a name is rendered, if it is. -/
inductive Renders : GeneralName → String → Prop where
  | dns (text : String) : Renders (dns (Text.utf8 text)) ("DNS:" ++ text)
  | address (ip : Ip) : Renders (address ip.bytes) ("IP:" ++ ip.text)

/-- The names that are listed: DNS names that are texts, and addresses of a length that there is. -/
def IsListed : GeneralName → Prop
  | dns bytes => ∃ text, Text.utf8 text = bytes
  | address bytes => bytes.length = 4 ∨ bytes.length = 16
  | directory _ | other => False

/-- All DNS names, texts or not, and the addresses of a length that there is. -/
def IsHostName : GeneralName → Prop
  | dns _ => True
  | address bytes => bytes.length = 4 ∨ bytes.length = 16
  | directory _ | other => False

theorem text?_eq_some_iff : name.text? = some text ↔ Renders name text := by
  constructor
  · intro shown
    cases name with
    | dns bytes =>
        obtain ⟨text, found, rfl⟩ := Option.map_eq_some_iff.mp shown
        rw [← text8?_eq_some_iff.mp found]
        exact .dns text
    | address bytes =>
        obtain ⟨ip, found, rfl⟩ := Option.map_eq_some_iff.mp shown
        rw [← Ip.ofBytes?_eq_some_iff.mp found]
        exact .address ip
    | directory => cases shown
    | other => cases shown
  · intro renders
    cases renders with
    | dns text => rw [text?, text8?_eq_some_iff.mpr rfl, Option.map_some]
    | address ip => rw [text?, Ip.ofBytes?_bytes, Option.map_some]

/-- The names that are listed are those that can be rendered. -/
theorem isListed_iff : name.IsListed ↔ ∃ text, Renders name text := by
  constructor
  · intro listed
    cases name with
    | dns bytes =>
        obtain ⟨text, rfl⟩ := listed
        exact ⟨_, .dns text⟩
    | address bytes =>
        obtain ⟨ip, rfl⟩ := Ip.exists_bytes_iff.mpr listed
        exact ⟨_, .address ip⟩
    | directory => cases listed
    | other => cases listed
  · rintro ⟨text, renders⟩
    cases renders with
    | dns text => exact ⟨text, rfl⟩
    | address ip => exact ip.length_bytes

instance : DecidablePred IsListed := fun name =>
  decidable_of_iff (name.text?.isSome = true) <| by
    rw [isListed_iff, Option.isSome_iff_exists]
    exact exists_congr fun _ => text?_eq_some_iff

instance : DecidablePred IsHostName
  | dns _ => .isTrue trivial
  | address bytes => inferInstanceAs (Decidable (bytes.length = 4 ∨ bytes.length = 16))
  | directory _ | other => .isFalse id

/-- A DNS name is not rendered like an address. -/
theorem dns_ne_address (text : String) (ip : Ip) : "DNS:" ++ text ≠ "IP:" ++ ip.text := by
  intro same
  have first := congrArg (fun s => s.toList.head?) same
  simp at first

/-- What is rendered can be told from its text. -/
theorem Renders.inj (renders : Renders name text) (renders' : Renders name' text) :
    name = name' := by
  generalize same : text = text' at renders'
  cases renders with
  | dns text =>
      cases renders' with
      | dns text' => rw [(String.append_right_inj _).mp same]
      | address ip' => exact absurd same (dns_ne_address text ip')
  | address ip =>
      cases renders' with
      | dns text' => exact absurd same.symm (dns_ne_address text' ip)
      | address ip' => rw [Ip.text_inj ((String.append_right_inj _).mp same)]

theorem leftUnique_renders : Relator.LeftUnique Renders :=
  fun _ _ _ renders renders' => renders.inj renders'

theorem rightUnique_renders : Relator.RightUnique Renders := by
  intro name text text' renders renders'
  rw [← text?_eq_some_iff] at renders renders'
  exact Option.some.inj (renders.symm.trans renders')

/-- One text stands for each listed name, in order. -/
theorem forall₂_filterMap_text? (names : List GeneralName) :
    List.Forall₂ Renders (names.filter IsListed) (names.filterMap text?) := by
  induction names with
  | nil => exact .nil
  | cons name names ih =>
      by_cases listed : name.IsListed
      · obtain ⟨text, renders⟩ := isListed_iff.mp listed
        have shown : name.text? = some text := text?_eq_some_iff.mpr renders
        rw [List.filter_cons_of_pos (by simpa using listed), List.filterMap_cons_some shown]
        exact .cons renders ih
      · have hidden : name.text? = none := by
          rw [Option.eq_none_iff_forall_ne_some]
          exact fun text shown => listed (isListed_iff.mpr ⟨text, text?_eq_some_iff.mp shown⟩)
        rw [List.filter_cons_of_neg (by simpa using listed), List.filterMap_cons_none hidden]
        exact ih

end GeneralName

open GeneralName (Renders IsListed IsHostName)

theorem Certificate.forall₂_altNames (certificate : Certificate) :
    List.Forall₂ Renders (certificate.altNames.filter IsListed) certificate.summary.altNames :=
  GeneralName.forall₂_filterMap_text? certificate.altNames

/-- Summaries report the names of some kinds faithfully. -/
structure ReportsNames (Kind : GeneralName → Prop) [DecidablePred Kind] : Prop where
  /-- A summary has a text for each name of these kinds, in the order of the certificate, and no
  other text. -/
  listed : ∀ certificate : Certificate,
    List.Forall₂ Renders (certificate.altNames.filter Kind) certificate.summary.altNames
  /-- The texts of two certificates are the same exactly if their names of these kinds are. -/
  told : ∀ {certificate certificate' : Certificate},
    certificate.summary.altNames = certificate'.summary.altNames ↔
      certificate.altNames.filter Kind = certificate'.altNames.filter Kind
  /-- No DNS name is rendered like an address. -/
  kinds_apart : ∀ (text : String) (ip : Ip), "DNS:" ++ text ≠ "IP:" ++ ip.text
  /-- No address of four bytes is rendered like one of sixteen. -/
  families_apart : ∀ {a b c d : UInt8} {groups : Vector UInt16 8},
    (Ip.v4 a b c d).text ≠ (Ip.v6 groups).text
  /-- No two addresses are rendered alike. -/
  addresses_apart : ∀ {ip ip' : Ip}, ip.text = ip'.text → ip.bytes = ip'.bytes

/-- Summaries report the DNS names that are texts and the addresses of four or sixteen bytes. -/
theorem reportsNames_isListed : ReportsNames IsListed where
  listed := Certificate.forall₂_altNames
  told {certificate certificate'} := by
    have lists := certificate.forall₂_altNames
    have lists' := certificate'.forall₂_altNames
    constructor
    · intro same
      rw [same] at lists
      exact List.left_unique_forall₂' GeneralName.leftUnique_renders lists lists'
    · intro same
      rw [same] at lists
      exact List.right_unique_forall₂' GeneralName.rightUnique_renders lists lists'
  kinds_apart := GeneralName.dns_ne_address
  families_apart same := Ip.noConfusion (Ip.text_inj same)
  addresses_apart same := congrArg Ip.bytes (Ip.text_inj same)

/-- A certificate with these alternative names. -/
def Sample.certificateFor (names : List GeneralName) : Certificate where
  encoding := []
  subject := some "server"
  issuer := none
  altNames := names
  publicKey := .unknown
  isSelfSigned := true
  signatureStrength := 0

/-- They do not report every DNS name: one that is no text leaves no trace in a summary. -/
theorem not_reportsNames_isHostName : ¬ReportsNames IsHostName := by
  intro reports
  let plain : GeneralName := .dns (Text.utf8 "ok.example")
  let garbled : GeneralName := .dns [0xFF, 0xFE, 0x61]
  have same : (Sample.certificateFor [garbled, plain]).summary.altNames =
      (Sample.certificateFor [plain]).summary.altNames := by
    decide +kernel
  have more : [garbled, plain].filter IsHostName = [plain].filter IsHostName :=
    reports.told.mp same
  exact absurd more (by decide)

end TlsListener
