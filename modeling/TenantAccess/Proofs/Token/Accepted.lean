import TenantAccess.Proofs.Access.Precedence
import TenantAccess.Proofs.Trimming
import TenantAccess.Token.IdentityToken

/-!
# Tokens that are accepted

A token stands for a principal exactly when it is signed under the secret, names a bearer and is
used from its issue on and before its expiry.

* `IdentityClaims.ValidAt`: what the claims have to be at a moment.
* `IdentityToken.Signed`: what the token has to be.
* `IdentityToken.verify_eq_ok`: both together are the condition for a token to be accepted.
-/

namespace TenantAccess

/-! ### Claims -/

namespace IdentityClaims

/-- The claims name a bearer, and the moment lies from their issue on and before their expiry, both
of which can be represented. -/
structure ValidAt (claims : IdentityClaims) (moment : Timestamp) : Prop where
  subject : Text.trim claims.subject.text ≠ ""
  email : Text.trim claims.email ≠ ""
  representable : Timestamp.firstSecond ≤ claims.issuedAt ∧
    claims.expiresAt ≤ Timestamp.lastSecond
  issued : claims.issuedAt ≤ moment.seconds
  unexpired : moment.seconds < claims.expiresAt

end IdentityClaims

namespace Text

/-- A text is blank when nothing is left of it. -/
theorem nonBlank?_isNone {s : String} : (nonBlank? s).isNone = true ↔ trim s = "" := by
  rw [Option.isNone_iff_eq_none, Option.eq_none_iff_forall_ne_some]
  constructor
  · intro h
    by_contra hne
    exact h _ (nonBlank?_eq_some.mpr ⟨rfl, hne⟩)
  · intro h t ht
    obtain ⟨rfl, hne⟩ := nonBlank?_eq_some.mp ht
    exact hne h

end Text

namespace Timestamp

/-- The start of a second is not after a moment when the second is not. -/
theorem start_le_iff {seconds : Int} {moment : Timestamp} :
    (⟨seconds, 0⟩ : Timestamp).le moment = true ↔ seconds ≤ moment.seconds := by
  rw [le_iff]
  dsimp only
  omega

/-- A moment is before the start of a second when its own second is. -/
theorem lt_start_iff {seconds : Int} {moment : Timestamp} :
    moment.lt ⟨seconds, 0⟩ = true ↔ moment.seconds < seconds := by
  unfold lt compare
  rcases Int.lt_trichotomy moment.seconds seconds with h | h | h
  · simp [Int.compare_eq_lt.mpr h, h]
  · have hnanos : Ord.compare moment.nanos 0 ≠ .lt := by
      rw [Ne, Nat.compare_eq_lt]
      exact Nat.not_lt_zero _
    simp [h, hnanos]
  · have hne : ¬moment.seconds < seconds := by omega
    simp [Int.compare_eq_gt.mpr h, hne]

/-- A timestamp is made of the seconds in its range, and of no others. -/
theorem ofSeconds?_eq_some {seconds : Int} {start : Timestamp} :
    ofSeconds? seconds = some start ↔
      (firstSecond ≤ seconds ∧ seconds ≤ lastSecond) ∧ start = ⟨seconds, 0⟩ := by
  unfold ofSeconds?
  split
  · rename_i h
    simp [h, eq_comm]
  · rename_i h
    simp [h]

end Timestamp

/-- Claims are accepted exactly when they are valid. -/
theorem IdentityClaims.validate_eq_ok {claims : IdentityClaims} {moment : Timestamp} :
    claims.validate moment = .ok () ↔ claims.ValidAt moment := by
  unfold validate
  constructor
  · intro h
    split at h
    · cases h
    rename_i hsubject
    split at h
    · cases h
    rename_i hemail
    rw [Text.nonBlank?_isNone] at hsubject hemail
    split at h
    · rename_i issued expires hissued hexpires
      obtain ⟨⟨hfirst, -⟩, rfl⟩ := Timestamp.ofSeconds?_eq_some.mp hissued
      obtain ⟨⟨-, hlast⟩, rfl⟩ := Timestamp.ofSeconds?_eq_some.mp hexpires
      split at h
      · cases h
      split at h
      · cases h
      rename_i hstarted
      split at h
      · cases h
      rename_i hrunning
      rw [Timestamp.lt_start_iff] at hstarted
      rw [Timestamp.start_le_iff] at hrunning
      exact ⟨hsubject, hemail, ⟨hfirst, hlast⟩, by omega, by omega⟩
    · cases h
  · intro h
    obtain ⟨hfirst, hlast⟩ := h.representable
    have hissued := h.issued
    have hunexpired := h.unexpired
    have hissue : claims.issued? = some ⟨claims.issuedAt, 0⟩ :=
      Timestamp.ofSeconds?_eq_some.mpr ⟨⟨hfirst, by omega⟩, rfl⟩
    have hexpiry : claims.expires? = some ⟨claims.expiresAt, 0⟩ :=
      Timestamp.ofSeconds?_eq_some.mpr ⟨⟨by omega, hlast⟩, rfl⟩
    rw [if_neg (by rw [Text.nonBlank?_isNone]; exact h.subject),
      if_neg (by rw [Text.nonBlank?_isNone]; exact h.email), hissue, hexpiry]
    dsimp only
    rw [if_neg (by rw [Timestamp.start_le_iff]; dsimp only; omega),
      if_neg (by rw [Timestamp.lt_start_iff]; omega),
      if_neg (by rw [Timestamp.start_le_iff]; omega)]

/-! ### Tokens -/

namespace IdentityToken

/-- A text is split at the last separator in it. -/
theorem splitLast?_eq_some {separator : Char} {cs before after : List Char} :
    splitLast? separator cs = some (before, after) ↔
      cs = before ++ separator :: after ∧ separator ∉ after := by
  have hspan : cs.reverse.span (· != separator) =
      (cs.reverse.takeWhile (· != separator), cs.reverse.dropWhile (· != separator)) :=
    List.span_eq_takeWhile_dropWhile _ _
  unfold splitLast?
  rw [hspan]
  constructor
  · intro h
    obtain ⟨passed, hsplit, hpassed, hhead⟩ :=
      Text.dropWhile_spec (· != separator) cs.reverse
    have hparts : cs.reverse.takeWhile (· != separator) ++ cs.reverse.dropWhile (· != separator) =
        passed ++ cs.reverse.dropWhile (· != separator) := by
      rw [List.takeWhile_append_dropWhile, ← hsplit]
    have htake : cs.reverse.takeWhile (· != separator) = passed :=
      List.append_cancel_right hparts
    rcases hdrop : cs.reverse.dropWhile (· != separator) with _ | ⟨found, rest⟩
    · simp [hdrop] at h
    rw [hdrop] at h hsplit hhead
    obtain ⟨rfl, rfl⟩ := Prod.mk.inj (Option.some.inj h)
    have hfound : found = separator := by simpa using hhead found rfl
    rw [htake]
    constructor
    · rw [← List.reverse_reverse cs, hsplit, hfound]
      simp
    · intro hmem
      have := hpassed separator (List.mem_reverse.mp hmem)
      simp at this
  · rintro ⟨rfl, hfree⟩
    have hpassed : ∀ c ∈ after.reverse, (c != separator) = true := by
      intro c hc
      rw [bne_iff_ne]
      rintro rfl
      exact hfree (List.mem_reverse.mp hc)
    have hreverse : (before ++ separator :: after).reverse =
        after.reverse ++ separator :: before.reverse := by simp
    rw [hreverse, List.takeWhile_append_of_pos hpassed, List.dropWhile_append_of_pos hpassed]
    simp

/-- A part of a token reads as a value: it is a document in octets, and the decoder takes it. -/
def Reads {α : Type} (part : List Char) (decoder : Decoder α) (a : α) : Prop :=
  ∃ octets document dropped, Base64Url.decode? part = some octets ∧
    Json.parseOctets? octets = some document ∧ decoder.run document = some (a, dropped)

/-- A part is read as a value if it decodes to octets, these parse, and the decoder accepts the
document, whatever fields it drops. -/
theorem reads_iff {α : Type} {part : List Char} {decoder : Decoder α} {a : α} :
    Reads part decoder a ↔ ∃ octets dropped, Base64Url.decode? part = some octets ∧
      (Json.parseOctets? octets).bind (Decoder.run decoder) = some (a, dropped) := by
  unfold Reads
  simp only [Option.bind_eq_some_iff]
  constructor
  · rintro ⟨octets, document, dropped, hoctets, hdocument, hrun⟩
    exact ⟨octets, dropped, hoctets, document, hdocument, hrun⟩
  · rintro ⟨octets, dropped, hoctets, document, hdocument, hrun⟩
    exact ⟨octets, document, dropped, hoctets, hdocument, hrun⟩

/-- The token has three parts: a header that names the one algorithm, the claims, and the signature
of both under the secret. -/
def Signed (secret : List UInt8) (token : List Char) (claims : IdentityClaims) : Prop :=
  ∃ header payload signature,
    token = header ++ '.' :: payload ++ '.' :: signature ∧ '.' ∉ payload ∧ '.' ∉ signature ∧
      Reads header decodeHeader .hs256 ∧
      signature = Base64Url.encode (Sha256.hmac secret (octetsOf (header ++ '.' :: payload))) ∧
      Reads payload decodeClaims claims

/-- Claims are read from the tokens that are signed. -/
theorem read_eq_ok {secret : List UInt8} {token : List Char} {claims : IdentityClaims} :
    read secret token = .ok claims ↔ Signed secret token claims := by
  unfold read
  constructor
  · intro h
    rcases hlast : splitLast? '.' token with _ | ⟨message, signature⟩
    · simp [hlast] at h
    rcases hfirst : splitLast? '.' message with _ | ⟨header, payload⟩
    · simp [hlast, hfirst] at h
    simp only [hlast, hfirst] at h
    obtain ⟨rfl, hsignature⟩ := splitLast?_eq_some.mp hlast
    obtain ⟨rfl, hpayload⟩ := splitLast?_eq_some.mp hfirst
    split at h
    · cases h
    rename_i octets hoctets
    split at h
    · cases h
    rename_i algorithm dropped hheader
    split at h
    · cases h
    rename_i halgorithm
    split at h
    · cases h
    rename_i hsigned
    split at h
    · cases h
    rename_i octets' hoctets'
    split at h
    · cases h
    rename_i claims' dropped' hclaims
    obtain rfl := Except.ok.inj h
    obtain rfl : algorithm = .hs256 := not_not.mp halgorithm
    exact ⟨header, payload, signature, rfl, hpayload, hsignature,
      reads_iff.mpr ⟨octets, dropped, hoctets, hheader⟩, (not_not.mp hsigned).symm,
      reads_iff.mpr ⟨octets', dropped', hoctets', hclaims⟩⟩
  · rintro ⟨header, payload, signature, rfl, hpayload, hsignature, hheader, hsigned, hclaims⟩
    obtain ⟨octets, dropped, hoctets, hheader⟩ := reads_iff.mp hheader
    obtain ⟨octets', dropped', hoctets', hclaims⟩ := reads_iff.mp hclaims
    rw [splitLast?_eq_some.mpr ⟨rfl, hsignature⟩]
    dsimp only
    rw [splitLast?_eq_some.mpr ⟨rfl, hpayload⟩]
    dsimp only
    rw [hoctets]
    dsimp only
    rw [hheader]
    dsimp only
    rw [if_neg (not_not.mpr rfl), if_neg (not_not.mpr hsigned.symm), hoctets']
    dsimp only
    rw [hclaims]

/-- A token is accepted at a moment exactly when it is signed and its claims are valid then. -/
theorem verify_eq_ok {secret : List UInt8} {token : String} {moment : Timestamp}
    {principal : Principal} :
    verify secret token moment = .ok principal ↔
      ∃ claims, Signed secret token.toList claims ∧ claims.ValidAt moment ∧
        principal = .ofClaims claims := by
  unfold verify
  constructor
  · intro h
    rcases hread : read secret token.toList with e | claims
    · simp [hread] at h
    rcases hvalid : claims.validate moment with e | _
    · simp [hread, hvalid] at h
    · simp only [hread, hvalid, Except.ok.injEq] at h
      exact ⟨claims, read_eq_ok.mp hread, IdentityClaims.validate_eq_ok.mp hvalid, h.symm⟩
  · rintro ⟨claims, hsigned, hvalid, rfl⟩
    rw [read_eq_ok.mpr hsigned]
    dsimp only
    rw [IdentityClaims.validate_eq_ok.mpr hvalid]

end IdentityToken
end TenantAccess
