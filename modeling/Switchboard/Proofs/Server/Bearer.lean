import Switchboard.Proofs.AccessToken
import Switchboard.Proofs.Server.Requests

/-! # Whoever shows an issued token is let in

An access token is made of characters that may stand in a header, so it is found in the header in
which it is shown, and whoever shows it in time enters as its account.

* `visible_sign` — the characters of a token may stand in a header;
* `bearer?_shown` — a token is found in the header in which it is shown;
* `authenticate_sign` — it is good for its account as long as it has not expired.
-/

namespace Switchboard

open Switchboard.Bytes (ascii ofChars)

/-! ## Characters of headers -/

/-- A character that may stand in a header. -/
def Headers.Visible (c : Char) : Prop := 32 ≤ c.toNat ∧ c.toNat < 127

theorem Headers.textOf_visible {cs : List Char} (hcs : ∀ c ∈ cs, Visible c) :
    textOf (ofChars cs) = some (String.ofList cs) := by
  have hascii : ∀ c ∈ cs, c.toNat < 128 := fun c hc => Nat.lt_trans (hcs c hc).2 (by decide)
  have hback : (cs.map ascii).map (fun b => Char.ofNat b.toNat) = cs := by
    rw [List.map_map]
    refine (List.map_congr_left fun c hc => ?_).trans (List.map_id cs)
    simp only [Function.comp_apply, Json.toNat_ascii (hascii c hc), Char.ofNat_toNat, id]
  have hall : (cs.map ascii).all (fun b => b = 9 ∨ (32 ≤ b ∧ b < 127)) = true := by
    rw [List.all_map, List.all_eq_true]
    intro c hc
    obtain ⟨hlow, hhigh⟩ := hcs c hc
    have hnat := Json.toNat_ascii (hascii c hc)
    simp only [Function.comp_apply, decide_eq_true_eq, UInt8.le_iff_toNat_le,
      UInt8.lt_iff_toNat_lt, hnat]
    exact .inr ⟨hlow, hhigh⟩
  rw [Json.ofChars_eq_map hascii, textOf, if_pos hall, hback]

namespace AccessToken

open Headers (Visible)

theorem visible_encode (bytes : List UInt8) :
    ∀ c ∈ (Base64.encode .urlSafe bytes).toList, Visible c := by
  refine Base64.forall_mem_encode ?_ bytes
  unfold Visible
  decide +kernel

theorem visible_sign (secret : String) (claims : Claims) :
    ∀ c ∈ (sign secret claims).toList, Visible c := by
  have hpoint : ∀ c ∈ ".".toList, Visible c := by simp [Visible]
  simp only [sign, encodePart, signature, String.toList_append, List.forall_mem_append]
  exact ⟨⟨⟨⟨visible_encode _, hpoint⟩, visible_encode _⟩, hpoint⟩, visible_encode _⟩

end AccessToken

namespace Server

open Http (Request)
open Service (Clock Fresh)
open Headers (Visible)

/-- The header in which an access token is shown. -/
def shown (token : String) : String × List UInt8 :=
  ("authorization", Bytes.ofString ("Bearer " ++ token))

theorem bearer?_shown {token : String} (hne : token ≠ "")
    (htoken : ∀ c ∈ token.toList, Visible c) (headers : Headers) :
    bearer? (shown token :: headers) = some token := by
  have htext : Headers.textOf (Bytes.ofString ("Bearer " ++ token))
      = some ("Bearer " ++ token) := by
    have hvisible : ∀ c ∈ "Bearer ".toList ++ token.toList, Visible c := by
      have hword : ∀ c ∈ "Bearer ".toList, Visible c := by simp [Visible]
      exact List.forall_mem_append.2 ⟨hword, htoken⟩
    have hchars : "Bearer " ++ token = String.ofList ("Bearer ".toList ++ token.toList) := by
      rw [← String.toList_append, String.ofList_toList]
    rw [hchars, Bytes.ofString_ofList, Headers.textOf_visible hvisible]
  have hname : Text.lowerAscii "authorization" = "authorization" := by decide +kernel
  have hget : Headers.text? (shown token :: headers) "authorization"
      = some ("Bearer " ++ token) := by
    simp [Headers.text?, Headers.get?, shown, hname, htext]
  have hlist : ("Bearer " ++ token).toList
      = 'B' :: 'e' :: 'a' :: 'r' :: 'e' :: 'r' :: ' ' :: token.toList := by
    simp [String.toList_append]
  rw [bearer?, hget, Option.map_some, hlist]
  cases hcs : token.toList with
  | nil => exact absurd (String.toList_eq_nil_iff.1 hcs) hne
  | cons c cs =>
    rw [← String.ofList_toList (s := token), hcs]
    rfl

theorem bearer?_sign (secret : String) (c : AccessToken.Claims) (headers : Headers) :
    bearer? (shown (AccessToken.sign secret c) :: headers) = some (AccessToken.sign secret c) := by
  refine bearer?_shown (fun hempty => ?_) (AccessToken.visible_sign secret c) headers
  have hlength := congrArg String.length hempty
  simp [AccessToken.sign] at hlength

/-- A token is good for its account from the second minute of all on, until it expires. -/
theorem authenticate_sign {service : Service} {c : AccessToken.Claims} {account : AccountId}
    {now : Instant} (hfits : c.Fits) (hissuer : c.issuer = AccessToken.issuer)
    (hsubject : c.subject = account.render) (hstart : AccessToken.leeway ≤ now.seconds)
    (hend : now.seconds ≤ c.expires + AccessToken.leeway)
    (huser : service.identity.hasUser account = true) :
    service.authenticate now (AccessToken.sign service.keys.secret c) = .ok account := by
  have hgood : AccessToken.flaw? now c false = none := by
    rw [AccessToken.flaw?_own hissuer hstart, if_pos hend]
  have haccount : Uuid.parse c.subject = .ok account := by
    rw [hsubject, Uuid.parse_render]
  have hverify : AccessToken.verifyAccount service.keys now
      (AccessToken.sign service.keys.secret c) = .ok (account, c) := by
    rw [AccessToken.verifyAccount, AccessToken.verify_sign hfits, hgood]
    simp only [Option.elim, haccount]
  rw [Service.authenticate, hverify]
  simp only [huser, if_true]

end Server

end Switchboard
