import Carpool.Login.Policy
import Carpool.Proofs.Text.AddressParts

/-!
# Whom the login policy lets in

A policy looks for configured domains at the end of a whole address in lower
case.  Nothing but an `@` sign becomes one there, and none has a part in how the
letters around it are lower-cased, so this compares what follows an `@` sign
with the configured domains, up to case, and nothing else gets through.
-/

namespace Carpool

namespace LoginPolicy

open Text

variable {clientId text email : String} {domains : List String} {info : TokenInfo}

/-! ## Configured domains -/

/-- A configured text without its blank ends, and then without `@` signs at its
start. -/
def bareDomain (text : String) : List Char :=
  (trimBlank text.toList).dropWhile (· == '@')

/-- Some `@` sign of the address is followed by the configured domain, up to
case. -/
structure Covers (text email : String) : Prop where
  named : bareDomain text ≠ []
  ends : ∃ before domain, email.toList = before ++ '@' :: domain ∧
    lowerChars domain = lowerChars (bareDomain text)

theorem normalDomain_eq (text : String) : normalDomain text = lowerChars (bareDomain text) := rfl

theorem mem_ofConfig {domain : List Char} :
    domain ∈ (ofConfig clientId domains).domains ↔
      ∃ text ∈ domains, bareDomain text ≠ [] ∧ domain = lowerChars (bareDomain text) := by
  simp only [ofConfig, List.mem_filter, List.mem_map, normalDomain_eq, Bool.not_eq_true',
    List.isEmpty_eq_false_iff]
  constructor
  · rintro ⟨⟨text, configured, rfl⟩, nonempty⟩
    exact ⟨text, configured, mt lowerChars_eq_nil.mpr nonempty, rfl⟩
  · rintro ⟨text, configured, named, rfl⟩
    exact ⟨⟨text, configured, rfl⟩, mt lowerChars_eq_nil.mp named⟩

theorem allowsEmail_ofConfig (clientId : String) (domains : List String) (email : String) :
    (ofConfig clientId domains).allowsEmail email = true ↔ ∃ text ∈ domains, Covers text email := by
  simp only [allowsEmail, List.any_eq_true, List.isSuffixOf_iff_suffix, suffix_lowerChars_iff]
  constructor
  · rintro ⟨domain, listed, ends⟩
    obtain ⟨text, configured, named, rfl⟩ := mem_ofConfig.mp listed
    exact ⟨text, configured, named, ends⟩
  · rintro ⟨text, configured, named, ends⟩
    exact ⟨_, mem_ofConfig.mpr ⟨text, configured, named, rfl⟩, ends⟩

/-! ## The domain of an address -/

/-- Where the configured domain has no `@` sign of its own, it is the last of the
address that it follows. -/
theorem Covers.last_atSign (covers : Covers text email) (plain : '@' ∉ bareDomain text) :
    ∃ before domain, email.toList = before ++ '@' :: domain ∧ '@' ∉ domain ∧
      lowerChars domain = lowerChars (bareDomain text) := by
  obtain ⟨before, domain, whole, same⟩ := covers.ends
  refine ⟨before, domain, whole, ?_, same⟩
  rwa [← atSign_mem_lowerChars, same, atSign_mem_lowerChars]

theorem not_covers_of_blank (blank : ∀ character ∈ text.toList, isBlank character = true) :
    ¬Covers text email := by
  rintro ⟨named, -⟩
  have gone : trimBlank text.toList = [] := by
    rw [trimBlank, List.dropWhile_eq_nil_iff.mpr blank]
    rfl
  rw [bareDomain, gone] at named
  exact named rfl

/-! ## Letter case -/

theorem normalDomain_of_sameLetters {other : String}
    (same : SameLetters text.toList other.toList) : normalDomain text = normalDomain other := by
  have atSign (character : Char) : (character.toLower == '@') = (character == '@') :=
    toLower_unseen (· == '@') (by decide) character
  exact (same.trimBlank.dropWhile atSign).lowerChars_eq

theorem ofConfig_of_sameLetters {others : List String}
    (same : List.Forall₂ (fun text other => SameLetters text.toList other.toList) domains others) :
    ofConfig clientId domains = ofConfig clientId others := by
  have normal : domains.map normalDomain = others.map normalDomain := by
    induction same with
    | nil => rfl
    | cons here _ ih => rw [List.map_cons, List.map_cons, normalDomain_of_sameLetters here, ih]
  rw [ofConfig, ofConfig, normal]

theorem check_of_sameLetters (policy : LoginPolicy)
    (same : SameLetters info.email.toList email.toList) :
    policy.check { info with email := email } = policy.check info := by
  rw [check, check, allowsEmail, allowsEmail, same.lowerChars_eq]

/-! ## Decisions -/

section

variable (policy : LoginPolicy) (info : TokenInfo)

theorem check_eq_ok_iff : policy.check info = .ok () ↔
    info.audience = policy.clientId ∧ info.emailVerified = "true" ∧
      policy.allowsEmail info.email = true := by
  rw [check]
  split_ifs <;> simp_all

theorem check_eq_invalidAudience_iff :
    policy.check info = .error .invalidAudience ↔ info.audience ≠ policy.clientId := by
  rw [check]
  split_ifs <;> simp_all

theorem check_eq_emailNotVerified_iff : policy.check info = .error .emailNotVerified ↔
    info.audience = policy.clientId ∧ info.emailVerified ≠ "true" := by
  rw [check]
  split_ifs <;> simp_all

theorem check_eq_unauthorizedDomain_iff : policy.check info = .error .unauthorizedDomain ↔
    info.audience = policy.clientId ∧ info.emailVerified = "true" ∧
      ¬policy.allowsEmail info.email = true := by
  rw [check]
  split_ifs <;> simp_all

end

/-- Those whom a configuration lets in, and why it turns others away. -/
structure Admission (clientId : String) (domains : List String) (info : TokenInfo) : Prop where
  admitted : (ofConfig clientId domains).check info = .ok () ↔
    info.audience = clientId ∧ info.emailVerified = "true" ∧
      ∃ text ∈ domains, Covers text info.email
  misdirected : (ofConfig clientId domains).check info = .error .invalidAudience ↔
    info.audience ≠ clientId
  unverified : (ofConfig clientId domains).check info = .error .emailNotVerified ↔
    info.audience = clientId ∧ info.emailVerified ≠ "true"
  outside : (ofConfig clientId domains).check info = .error .unauthorizedDomain ↔
    info.audience = clientId ∧ info.emailVerified = "true" ∧
      ¬∃ text ∈ domains, Covers text info.email
  /-- What follows the last `@` sign of an admitted address is a configured
  domain, and not only its end. -/
  whole : (∀ text ∈ domains, '@' ∉ bareDomain text) →
    (ofConfig clientId domains).check info = .ok () →
      ∃ before domain, info.email.toList = before ++ '@' :: domain ∧ '@' ∉ domain ∧
        ∃ text ∈ domains, bareDomain text ≠ [] ∧ lowerChars domain = lowerChars (bareDomain text)
  nobody : (∀ text ∈ domains, ∀ character ∈ text.toList, isBlank character = true) →
    (ofConfig clientId domains).check info ≠ .ok ()
  anyCase : ∀ (others : List String) (email : String),
    List.Forall₂ (fun text other => SameLetters text.toList other.toList) domains others →
      SameLetters info.email.toList email.toList →
        (ofConfig clientId others).check { info with email := email } =
          (ofConfig clientId domains).check info

theorem configured_domains_admitted (clientId : String) (domains : List String)
    (info : TokenInfo) : Admission clientId domains info := by
  have allowed := allowsEmail_ofConfig clientId domains info.email
  have admitted : (ofConfig clientId domains).check info = .ok () ↔
      info.audience = clientId ∧ info.emailVerified = "true" ∧
        ∃ text ∈ domains, Covers text info.email := by
    rw [check_eq_ok_iff, allowed]
    rfl
  refine ⟨admitted, check_eq_invalidAudience_iff _ info, check_eq_emailNotVerified_iff _ info,
    ?_, ?_, ?_, ?_⟩
  · rw [check_eq_unauthorizedDomain_iff, allowed]
    rfl
  · intro plain passed
    obtain ⟨-, -, text, configured, covers⟩ := admitted.mp passed
    obtain ⟨before, domain, split, last, same⟩ := covers.last_atSign (plain text configured)
    exact ⟨before, domain, split, last, text, configured, covers.named, same⟩
  · intro blank passed
    obtain ⟨-, -, text, configured, covers⟩ := admitted.mp passed
    exact not_covers_of_blank (blank text configured) covers
  · intro others email sameDomains sameEmail
    rw [← ofConfig_of_sameLetters sameDomains, check_of_sameLetters _ sameEmail]

/-- A Greek domain, as it may stand in a configuration. -/
def greekDomains : List String :=
  [" @ΟΔΟΣ.gr ", "", "@"]

/-- Its holder writes the domain in lower case, and a second `@` sign before it. -/
def doubleSigned : TokenInfo :=
  ⟨"carpool", "\"Nikos@home\"@οδοσ.GR", "true", "Nikos", none, "7"⟩

theorem greekDomains_admit_doubleSigned :
    (ofConfig "carpool" greekDomains).check doubleSigned = .ok () ∧
      (∃ before domain, doubleSigned.email.toList = before ++ '@' :: domain ∧ '@' ∉ domain ∧
        ∃ text ∈ greekDomains, bareDomain text ≠ [] ∧
          lowerChars domain = lowerChars (bareDomain text)) ∧
      (ofConfig "carpool" ["\t", " "]).check doubleSigned ≠ .ok () ∧
      (ofConfig "carpool" [" @ΟΔΟΣ.GR ", "", "@"]).check
        { doubleSigned with email := "\"NIKOS@home\"@οδοσ.gr" } = .ok () := by
  have admission := configured_domains_admitted "carpool" greekDomains doubleSigned
  have blank := configured_domains_admitted "carpool" ["\t", " "] doubleSigned
  obtain ⟨passed, plain, allBlank, domain, email⟩ :
      (ofConfig "carpool" greekDomains).check doubleSigned = .ok () ∧
        (∀ text ∈ greekDomains, '@' ∉ bareDomain text) ∧
        (["\t", " "].all fun text => text.toList.all isBlank) = true ∧
        SameLetters " @ΟΔΟΣ.gr ".toList " @ΟΔΟΣ.GR ".toList ∧
        SameLetters doubleSigned.email.toList "\"NIKOS@home\"@οδοσ.gr".toList := by
    decide +kernel
  simp only [List.all_eq_true] at allBlank
  refine ⟨passed, admission.whole plain passed, blank.nobody allBlank, ?_⟩
  rw [← passed]
  exact admission.anyCase _ _ (.cons domain (.cons rfl (.cons rfl .nil))) email

/-- The end of a domain does not stand for the domain. -/
example : (ofConfig "carpool" ["campus.edu"]).check
    { doubleSigned with email := "mallory@notcampus.edu" } = .error .unauthorizedDomain := by
  decide +kernel

end LoginPolicy

end Carpool
