import Switchboard.AccessToken.Verify
import Switchboard.Proofs.Base64
import Switchboard.Proofs.Json.Passing
import Switchboard.Proofs.Uuid

/-! # A token is accepted for what it was issued for

A token is taken apart at its points, none of which stands inside a part; the bytes of a part
are those that were encoded; and the claims are read in them as they were written, whatever
characters the email is made of.  So holders of the secret see the claims again until the
token expires, and then that it has expired.

* `parts_joined` — where a token is taken apart;
* `algorithmOf_header`, `Claims.ofPart_render`, `isAddressed?_render` — what its parts say;
* `verify_sign` — the token of any claims;
* `verifyAccount_issue` — a token that was issued, at any later time.
-/

namespace Switchboard.AccessToken

open Json (TakesAll)
open Access (Refusal)

/-! ## The parts -/

/-- The parts of a token have no points in them. -/
theorem parts_joined {first middle last : String} (hfirst : '.' ∉ first.toList)
    (hmiddle : '.' ∉ middle.toList) (hlast : '.' ∉ last.toList) :
    parts (first ++ "." ++ middle ++ "." ++ last) = some (first, middle, last) := by
  have hjoined : (first ++ "." ++ middle ++ "." ++ last).toList
      = List.intercalate ['.'] [first.toList, middle.toList, last.toList] := by
    simp [String.toList_append, List.intercalate]
  have hsplit : (first ++ "." ++ middle ++ "." ++ last).toList.splitOn '.'
      = [first.toList, middle.toList, last.toList] := by
    rw [hjoined]
    refine List.splitOn_intercalate '.' ?_ (by simp)
    simp [hfirst, hmiddle, hlast]
  rw [parts, hsplit]
  simp [List.intercalate]

theorem point_not_mem (bytes : List UInt8) :
    '.' ∉ (Base64.encode .urlSafe bytes).toList :=
  fun hc => Base64.forall_mem_encode Base64.point_ne_digit bytes _ hc rfl

theorem decode_encodePart (s : String) :
    Base64.decode .urlSafe (encodePart s) = some (Bytes.ofString s) :=
  Base64.decode_encode Base64.faithful_urlSafe _

theorem algorithmOf_header : algorithmOf (Bytes.ofString header.render) = some "HS256" := by
  have hparse : Json.parseOnly (headerRecord.fields.map (·.name)) (Bytes.ofString header.render)
      = .ok header :=
    Json.parseOnly_render (by decide) (by simp [Json.reads_string])
  rw [algorithmOf, hparse]
  rfl

/-- What a token says is found in it again by those who hold the secret. -/
theorem signedPart_sign (secret : String) (claims : Claims) :
    signedPart secret (sign secret claims) = .ok (Bytes.ofString claims.toJson.render) := by
  have hparts : parts (sign secret claims) = some (encodePart header.render,
      encodePart claims.toJson.render,
      signature secret (encodePart header.render ++ "." ++ encodePart claims.toJson.render)) :=
    parts_joined (point_not_mem _) (point_not_mem _) (point_not_mem _)
  rw [signedPart, hparts]
  simp only [decode_encodePart, Option.bind_some, algorithmOf_header, ne_eq, not_true_eq_false,
    if_false]

/-! ## The claims -/

/-- The numbers of a token fit into 64 bits. -/
def Claims.Fits (c : Claims) : Prop := c.expires < Limit.bits64 ∧ c.issued < Limit.bits64

/-- The members of the second part of a token. -/
def Claims.members (c : Claims) : List (String × Json) :=
  [("sub", .string c.subject), ("exp", .ofNat c.expires), ("iat", .ofNat c.issued),
   ("iss", .string c.issuer), ("email", .string c.email), ("jti", .string c.id)]

theorem Claims.toJson_eq (c : Claims) : c.toJson = .object c.members := rfl

theorem natBelow_ofNat {n limit : Nat} (hn : n < limit) (expected : String) :
    Json.Decoder.natBelow limit expected (.ofNat n) = .ok n := by
  have hrange : (0 : Int) ≤ n ∧ (n : Int) < limit := ⟨Int.natCast_nonneg n, by exact_mod_cast hn⟩
  rw [Json.ofNat, Json.Decoder.natBelow, if_pos hrange, Int.toNat_natCast]

theorem refusal_natBelow {n limit : Nat} (hn : n < limit) (expected : String) :
    Json.refusal (.natBelow limit expected) (.ofNat n) = none := by
  rw [Json.refusal, natBelow_ofNat hn]

theorem refusal_string (s : String) : Json.refusal Json.Decoder.string (.string s) = none := rfl

theorem Claims.ofMembers_members {c : Claims} (hc : c.Fits) : ofMembers c.members = some c := by
  obtain ⟨hexpires, hissued⟩ := hc
  have hwritten : Json.Record.checkWritten claimsRecord.fields [] c.members = .ok () := by
    refine Json.checkWritten_ok (by simp [Claims.members]) (by simp) ?_
    simp [Claims.members, claimsRecord, refusal_string, refusal_natBelow, hexpires, hissued]
  have hchecked : membersOf claimsRecord (.object c.members) = some c.members := by
    rw [membersOf, hwritten]
    rfl
  have hnumber : ∀ name n, n < Limit.bits64 → Json.lookup name c.members = some (.ofNat n) →
      Json.Record.field c.members name (.natBelow Limit.bits64 "") = .ok n := by
    intro name n hn hlookup
    rw [Json.Record.field, hlookup]
    exact natBelow_ofNat hn ""
  rw [ofMembers, hchecked]
  simp only [hnumber "exp" c.expires hexpires rfl, hnumber "iat" c.issued hissued rfl]
  rfl

theorem Claims.ofPart_of_parse {part : List UInt8} {v : Json}
    (hparse : Json.parseOnly (claimsRecord.fields.map (·.name)) part = .ok v) :
    ofPart part = v.asObject?.bind ofMembers := by
  rw [ofPart, hparse]
  rfl

theorem Claims.ofPart_render {c : Claims} (hc : c.Fits) :
    Claims.ofPart (Bytes.ofString c.toJson.render) = some c := by
  obtain ⟨hexpires, hissued⟩ := hc
  have hparse : Json.parseOnly (claimsRecord.fields.map (·.name))
      (Bytes.ofString c.toJson.render) = .ok (.object c.members) :=
    Json.parseOnly_render (by simp [claimsRecord])
      (by simp [Json.reads_string, Json.reads_ofNat, hexpires, hissued])
  have hmembers := Claims.ofMembers_members ⟨hexpires, hissued⟩
  rw [Claims.ofPart_of_parse hparse, Json.asObject?, Option.bind_some, hmembers]

/-- The claims say nothing about whom a token is meant for. -/
theorem isAddressed?_render (c : Claims) :
    isAddressed? (Bytes.ofString c.toJson.render) = some false := by
  have hpassed : TakesAll (asideRule.only ["nbf", "aud"]) ⟨[], none⟩ c.members ⟨[], none⟩ :=
    Json.takesAll_passed (by simp [Claims.members, Json.passed_string, Json.passed_ofNat])
  have hfields := Json.fields_text hpassed []
  have hending : Json.ending [] = .ok ((), []) := rfl
  rw [List.append_nil] at hfields
  rw [isAddressed?, Json.readAll, Json.render, Bytes.ofString_ofList, Claims.toJson_eq,
    Claims.members, Json.text, Json.ofChars_ascii (by decide), readAside,
    Json.skipBlanks_of_not_blank (by decide)]
  simp only [if_true, hfields, hending]
  rfl

/-! ## Whole tokens -/

/-- Of a token that was signed with the secret, only what stands against its claims counts. -/
theorem verify_sign {k : Keys} {c : Claims} (hc : c.Fits) (now : Instant) :
    verify k now (sign k.secret c) = (flaw? now c false).elim (.ok c) .error := by
  rw [verify, signedPart_sign]
  simp only [Claims.ofPart_render hc, isAddressed?_render]
  cases flaw? now c false <;> rfl

/-- After the first minute of all a token is good as long as its last second is at most a
minute ago. -/
theorem flaw?_own {now : Instant} {c : Claims} (hissuer : c.issuer = issuer)
    (hstart : leeway ≤ now.seconds) :
    flaw? now c false = if now.seconds ≤ c.expires + leeway then none else some .expired := by
  rw [flaw?, earliestExpiry, if_neg (Nat.not_lt.2 hstart)]
  by_cases hgood : now.seconds ≤ c.expires + leeway
  · have hearly : ¬ c.expires < now.seconds - leeway := by omega
    rw [if_neg hearly, if_neg (fun h => h hissuer), if_neg Bool.false_ne_true, if_pos hgood]
  · have hlate : c.expires < now.seconds - leeway := by omega
    rw [if_pos hlate, if_neg hgood]

/-- The seconds of a token that is issued fit into 64 bits. -/
theorem fits_of_expiry {k : Keys} {now : Instant} {second : Int}
    (h : k.expiry now = some second) :
    second = now.seconds + 60 * k.lifetime ∧ second.toNat < Limit.bits64 ∧
      now.seconds < Limit.bits64 := by
  have hend : Calendar.endSecond + 60 * maxMinutes < Limit.bits64 := by decide
  have hmax : 0 ≤ maxMinutes := by decide
  have hlifetime : -maxMinutes ≤ k.lifetime := by
    have hdefault : -maxMinutes ≤ defaultMinutes := by decide
    unfold Keys.lifetime
    split
    · next hrange => exact hrange.1
    · exact hdefault
  simp only [Keys.expiry, Option.ite_none_right_eq_some] at h
  obtain ⟨hrange, hsecond⟩ := h
  cases hsecond
  omega

/-- An issued token is accepted by all who have the secret, with the claims that it was
issued with, up to a minute after its last second, and is told to have expired from then on.
That second lies as many minutes after the issue as the keys say, or before it if they say
so, but not before the beginning of time. -/
theorem verifyAccount_issue {k k' : Keys} {now later : Instant} {account : AccountId}
    {email token : String} {id : Uuid} (hissue : issue k now account email id = .ok token)
    (hsecret : k'.secret = k.secret) (hstart : 60 ≤ now.seconds) (hlater : now ≤ later) :
    let expires := (now.seconds + 60 * k.lifetime).toNat
    verifyAccount k' later token =
      if later.seconds ≤ expires + 60 then
        .ok (account, ⟨account.render, expires, now.seconds, issuer, email, id.render⟩)
      else .error .expired := by
  intro expires
  have hseconds : leeway ≤ later.seconds := Nat.le_trans hstart (Nat.div_le_div_right hlater)
  unfold issue Keys.claims at hissue
  split at hissue
  · cases hissue
  · next second hexpiry =>
    obtain ⟨rfl, hexpires, hissued⟩ := fits_of_expiry hexpiry
    cases hissue
    let c : Claims := ⟨account.render, expires, now.seconds, issuer, email, id.render⟩
    have hfits : c.Fits := ⟨hexpires, hissued⟩
    have hflaw : flaw? later c false
        = if later.seconds ≤ expires + 60 then none else some .expired :=
      flaw?_own rfl hseconds
    have hverify : verify k' later (sign k.secret c)
        = if later.seconds ≤ expires + 60 then .ok c else .error .expired := by
      rw [← hsecret, verify_sign hfits, hflaw]
      split <;> rfl
    have haccount : Uuid.parse c.subject = .ok account := Uuid.parse_render account
    change verifyAccount k' later (sign k.secret c) = _
    by_cases hgood : later.seconds ≤ expires + 60
    · rw [if_pos hgood] at hverify ⊢
      simp only [verifyAccount, hverify, haccount]
      rfl
    · rw [if_neg hgood] at hverify ⊢
      simp only [verifyAccount, hverify]

/-- A token of one minute that is issued in the second minute of all, for an email with a quote, a
line break and a character beyond 16 bits: it is accepted to the end of the third minute. -/
theorem verifyAccount_issue_minute :
    let claims : Claims :=
      ⟨Uuid.render ⟨1⟩, 120, 60, issuer, "\"a\n😀\"@b", Uuid.render ⟨2⟩⟩
    ∃ token, issue ⟨"secret", 1⟩ 60000 ⟨1⟩ claims.email ⟨2⟩ = .ok token ∧
      verifyAccount ⟨"secret", 5⟩ 180999 token = .ok (⟨1⟩, claims) ∧
      verifyAccount ⟨"secret", 5⟩ 181000 token = .error .expired := by
  intro claims
  have hissue : issue ⟨"secret", 1⟩ 60000 ⟨1⟩ claims.email ⟨2⟩ = .ok (sign "secret" claims) := rfl
  have hgood : verifyAccount ⟨"secret", 5⟩ 180999 (sign "secret" claims) = .ok (⟨1⟩, claims) :=
    verifyAccount_issue hissue rfl (by decide) (by decide)
  have hexpired : verifyAccount ⟨"secret", 5⟩ 181000 (sign "secret" claims) = .error .expired :=
    verifyAccount_issue hissue rfl (by decide) (by decide)
  exact ⟨_, hissue, hgood, hexpired⟩

end Switchboard.AccessToken
