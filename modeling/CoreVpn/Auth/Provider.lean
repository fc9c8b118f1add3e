import CoreVpn.Lib.Framing
import CoreVpn.Auth.SessionManager

/-!
# Provider access checks

`OAuthProvider::is_domain_allowed` and `is_in_required_group` (`corevpn-auth/src/provider.rs`)
decide from the provider's configuration whether a signed-in user may connect. The
domain check, like `UserInfo::email_domain` (`token.rs`), takes the email's domain to
be `email.split('@').nth(1)`: the text after the first `@`, up to the next `@` or the
end, and the empty text when there is no `@`.

With a non-empty list of allowed domains, an address passes exactly when that text is
listed (`isDomainAllowed_iff`). An address with a second `@` is judged by the text
between the first two, not by what follows the last, and an address with no `@` passes
when the empty domain is listed.
-/

namespace CoreVpn.Auth

set_option autoImplicit false

/-- `ProviderConfig`, the two lists its checks read. The endpoints, scopes, claim
names and client credentials are read by nothing modelled here. -/
structure ProviderConfig where
  allowedDomains : List String
  requiredGroups : List String
  deriving DecidableEq

namespace ProviderConfig

/-- `ProviderConfig::google`: a hosted domain, when given, is pushed onto the empty
list of allowed domains. -/
def google (allowedDomain : Option String) : ProviderConfig :=
  let config : ProviderConfig := ⟨[], []⟩
  match allowedDomain with
  | some domain => { config with allowedDomains := config.allowedDomains ++ [domain] }
  | none => config

end ProviderConfig

def domainOf (email : String) : Option String :=
  ((email.toList.splitOn '@')[1]?).map String.ofList

def UserInfo.emailDomain (info : UserInfo) : Option String := info.email.bind domainOf

/-- `struct OAuthProvider`; its HTTP client and discovered metadata are not read by
the checks. -/
structure OAuthProvider where
  config : ProviderConfig

namespace OAuthProvider

def new (config : ProviderConfig) : OAuthProvider := ⟨config⟩

def isDomainAllowed (provider : OAuthProvider) (email : String) : Bool :=
  if provider.config.allowedDomains.isEmpty then true
  else
    let domain := (domainOf email).getD ""
    provider.config.allowedDomains.any (· == domain)

def isInRequiredGroup (provider : OAuthProvider) (groups : List String) : Bool :=
  if provider.config.requiredGroups.isEmpty then true
  else provider.config.requiredGroups.any fun group => groups.contains group

end OAuthProvider

/-! ## The domain an address is judged by -/

theorem domainOf_eq_none_iff (email : String) : domainOf email = none ↔ '@' ∉ email.toList := by
  have pieces := Framing.length_splitOn '@' email.toList
  rw [domainOf, Option.map_eq_none_iff, List.getElem?_eq_none_iff, pieces, ← List.count_eq_zero]
  omega

theorem domainOf_eq_some_iff (email : String) (domain : List Char) :
    domainOf email = some (String.ofList domain) ↔
      ∃ first, '@' ∉ first ∧ '@' ∉ domain ∧
        (email.toList = first ++ '@' :: domain ∨
          ∃ rest, email.toList = first ++ '@' :: (domain ++ '@' :: rest)) := by
  rw [← Framing.splitOn_getElem?_one_eq_some_iff, domainOf, Option.map_eq_some_iff]
  constructor
  · rintro ⟨piece, found, same⟩
    rw [found, String.ofList_inj.mp same]
  · intro found
    exact ⟨domain, found, rfl⟩

namespace OAuthProvider

theorem isDomainAllowed_iff (provider : OAuthProvider) (restricted : provider.config.allowedDomains ≠ [])
    (email : String) :
    provider.isDomainAllowed email = true ↔
      (∃ first domain, '@' ∉ first ∧ '@' ∉ domain ∧
          String.ofList domain ∈ provider.config.allowedDomains ∧
          (email.toList = first ++ '@' :: domain ∨
            ∃ rest, email.toList = first ++ '@' :: (domain ++ '@' :: rest))) ∨
        ('@' ∉ email.toList ∧ "" ∈ provider.config.allowedDomains) := by
  have listed : provider.isDomainAllowed email = true ↔
      (domainOf email).getD "" ∈ provider.config.allowedDomains := by
    simp [isDomainAllowed, List.isEmpty_iff, restricted]
  rw [listed]
  cases found : domainOf email with
  | none =>
      have clean := (domainOf_eq_none_iff email).mp found
      simp only [Option.getD_none, clean, not_false_eq_true, true_and]
      constructor
      · exact Or.inr
      · rintro (⟨first, domain, -, -, -, split | ⟨rest, split⟩⟩ | member)
        · exact absurd (split ▸ List.mem_append_right _ List.mem_cons_self) clean
        · exact absurd (split ▸ List.mem_append_right _ List.mem_cons_self) clean
        · exact member
  | some piece =>
      have inside : '@' ∈ email.toList := by
        by_contra clean
        rw [(domainOf_eq_none_iff email).mpr clean] at found
        cases found
      have decomposed := (domainOf_eq_some_iff email piece.toList).mp (by rw [String.ofList_toList]; exact found)
      simp only [Option.getD_some, inside, not_true_eq_false, false_and, or_false]
      constructor
      · intro member
        obtain ⟨first, clean, pieceClean, split⟩ := decomposed
        exact ⟨first, piece.toList, clean, pieceClean, by rwa [String.ofList_toList], split⟩
      · rintro ⟨first, domain, clean, domainClean, member, split⟩
        have same := (domainOf_eq_some_iff email domain).mpr ⟨first, clean, domainClean, split⟩
        rw [found, Option.some.injEq] at same
        rwa [same]

/-- An address with a second `@` is judged by the text between the first two: with
`allowed.com` the one allowed domain, `x@allowed.com@evil.com`, whose text after the
last `@` is `evil.com`, passes. -/
theorem domain_check_reads_text_after_first_at :
    (OAuthProvider.new (ProviderConfig.google (some "allowed.com"))).isDomainAllowed
        "x@allowed.com@evil.com" = true ∧
      "evil.com" ∉ (ProviderConfig.google (some "allowed.com")).allowedDomains := by
  decide

end OAuthProvider

end CoreVpn.Auth
