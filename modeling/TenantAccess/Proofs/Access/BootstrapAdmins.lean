import TenantAccess.Proofs.Access.Escalation
import TenantAccess.Proofs.Isolation.SiteLists
import TenantAccess.Proofs.Lowercasing

/-!
# The list of bootstrap administrators

The emails of bootstrap administrators stand between the commas of one setting.  The setting is
trimmed, split, and its parts are trimmed and lower-cased when it is read, and once more when a
resolver is made of it, while the email of a principal is lower-cased only.  All the same the list
has one meaning.

* `Text.map_trim_split_trim`: a text may be trimmed before it is split into parts that are trimmed.
* `mem_normalizedEmails`, `normalizedEmails_normalizedEmails`: the emails in the form in which they
  are compared are in that form already.
* `AccessConfig.ofLookup_cases`: what reading the settings makes of the list.
* `AccessResolver.HasList`, `bootstrap_list_means_the_same`: what the list means to the resolver of
  a configuration.
-/

namespace TenantAccess

/-! ### Parts between separators -/

namespace Text

section splitting

variable {separator c : Char} {blanks cs : List Char}

/-- A character that is not the separator belongs to the first part. -/
theorem splitChars_cons_of_ne (h : c ≠ separator) (cs : List Char) :
    ∃ part parts, splitChars separator cs = part :: parts ∧
      splitChars separator (c :: cs) = (c :: part) :: parts := by
  rw [splitChars, if_neg h]
  rcases hparts : splitChars separator cs with _ | ⟨part, parts⟩
  · rw [splitChars_eq_splitOn] at hparts
    exact absurd hparts (List.splitOn_ne_nil separator cs)
  · exact ⟨part, parts, rfl, rfl⟩

variable (hseparator : isBlank separator = false) (hblanks : ∀ c ∈ blanks, isBlank c = true)

include hseparator hblanks

/-- The separator is no blank. -/
theorem separator_not_mem_blanks : separator ∉ blanks := by
  intro hmem
  rw [hblanks separator hmem] at hseparator
  cases hseparator

/-- Blanks before a text are blanks before its first part. -/
theorem map_trimChars_split_before (cs : List Char) :
    (splitChars separator (blanks ++ cs)).map trimChars =
      (splitChars separator cs).map trimChars := by
  induction blanks with
  | nil => rfl
  | cons c blanks ih =>
    have hc : c ≠ separator := by
      rintro rfl
      exact separator_not_mem_blanks hseparator hblanks List.mem_cons_self
    obtain ⟨hblank, hblanks⟩ := List.forall_mem_cons.mp hblanks
    obtain ⟨part, parts, hparts, hmore⟩ := splitChars_cons_of_ne hc (blanks ++ cs)
    rw [← ih hblanks, List.cons_append, hmore, hparts, List.map_cons, List.map_cons,
      trimChars_cons_of_blank hblank]

/-- Blanks after a text are blanks after its last part. -/
theorem splitChars_append_blanks (cs : List Char) :
    ∃ parts last, splitChars separator cs = parts ++ [last] ∧
      splitChars separator (cs ++ blanks) = parts ++ [last ++ blanks] := by
  induction cs with
  | nil =>
    have hone : splitChars separator blanks = [blanks] := by
      rw [splitChars_eq_splitOn]
      exact List.splitOn_eq_singleton (separator_not_mem_blanks hseparator hblanks)
    exact ⟨[], [], rfl, hone⟩
  | cons c cs ih =>
    obtain ⟨parts, last, hparts, hmore⟩ := ih
    rw [List.cons_append, splitChars, splitChars, hparts, hmore]
    by_cases hc : c = separator
    · rw [if_pos hc, if_pos hc]
      exact ⟨[] :: parts, last, rfl, rfl⟩
    · rw [if_neg hc, if_neg hc]
      cases parts with
      | nil => exact ⟨[], c :: last, rfl, rfl⟩
      | cons part parts => exact ⟨(c :: part) :: parts, last, rfl, rfl⟩

/-- Blanks behind a list belong to its last part, and are trimmed with it. -/
theorem map_trimChars_split_after (cs : List Char) :
    (splitChars separator (cs ++ blanks)).map trimChars =
      (splitChars separator cs).map trimChars := by
  obtain ⟨parts, last, hparts, hmore⟩ := splitChars_append_blanks hseparator hblanks cs
  rw [hparts, hmore, List.map_append, List.map_append, List.map_singleton, List.map_singleton,
    trimChars_append_of_blank hblanks]

end splitting

/-- Blanks around a text do not change its parts but for blanks around them. -/
theorem map_trim_split_trim {separator : Char} (hseparator : isBlank separator = false)
    (s : String) : (split separator (trim s)).map trim = (split separator s).map trim := by
  have hmap : ∀ cs, ((splitChars separator cs).map String.ofList).map trim =
      ((splitChars separator cs).map trimChars).map String.ofList := by
    intro cs
    rw [List.map_map, List.map_map]
    refine List.map_congr_left fun part _ => ?_
    rw [Function.comp_apply, Function.comp_apply, trim, String.toList_ofList]
  obtain ⟨before, after, hsplit, hbefore, hafter, -⟩ := trimChars_spec s.toList
  have hparts :=
    calc (splitChars separator s.toList).map trimChars
        = (splitChars separator (before ++ trimChars s.toList ++ after)).map trimChars := by
          rw [← hsplit]
      _ = (splitChars separator (before ++ trimChars s.toList)).map trimChars :=
          map_trimChars_split_after hseparator hafter _
      _ = (splitChars separator (trimChars s.toList)).map trimChars :=
          map_trimChars_split_before hseparator hbefore _
  rw [split, split, hmap, hmap, trim, String.toList_ofList, hparts]

end Text

/-! ### Emails in the form in which they are compared -/

/-- Without its duplicates a list has no element twice. -/
theorem nodup_eraseDups {α : Type} [DecidableEq α] : ∀ l : List α, l.eraseDups.Nodup
  | [] => List.nodup_nil
  | a :: l => by
    rw [List.eraseDups_cons, List.nodup_cons]
    refine ⟨?_, nodup_eraseDups _⟩
    rw [List.mem_eraseDups, List.mem_filter]
    simp
termination_by l => l.length
decreasing_by exact Nat.lt_succ_of_le (List.length_filter_le _ _)

/-- A list that has no element twice has no duplicates to lose. -/
theorem eraseDups_of_nodup {α : Type} [DecidableEq α] {l : List α} (h : l.Nodup) :
    l.eraseDups = l := by
  induction l with
  | nil => rfl
  | cons a l ih =>
    obtain ⟨ha, hl⟩ := List.nodup_cons.mp h
    have hkept : l.filter (fun b => !b == a) = l := by
      rw [List.filter_eq_self]
      intro b hb
      have hne : b ≠ a := fun heq => ha (heq ▸ hb)
      simpa using hne
    rw [List.eraseDups_cons, hkept, ih hl]

section emails

variable {emails : List String} {email : String}

/-- The emails without the blanks around them, the empty ones left out, in lower case. -/
theorem normalizedEmails_eq (emails : List String) :
    normalizedEmails emails =
      (((emails.map Text.trim).filter (· ≠ "")).map Text.lowercase).eraseDups := by
  unfold normalizedEmails
  congr 1
  induction emails with
  | nil => rfl
  | cons email emails ih =>
    rw [List.filterMap_cons, ih, List.map_cons]
    by_cases hempty : Text.trim email = ""
    · simp [Text.nonBlank?, hempty]
    · simp [Text.nonBlank?, hempty]

/-- The normalised emails are the parts that are not blank, trimmed and in lower case. -/
theorem mem_normalizedEmails :
    email ∈ normalizedEmails emails ↔
      ∃ part ∈ emails, Text.trim part ≠ "" ∧ Text.lowercase (Text.trim part) = email := by
  rw [normalizedEmails_eq, List.mem_eraseDups]
  simp [and_assoc]

/-- Emails that are trimmed and in lower case stay as they are, each once. -/
theorem normalizedEmails_of_forms
    (h : ∀ email ∈ emails, Text.nonBlank? email = some email ∧ Text.lowercase email = email) :
    normalizedEmails emails = emails.eraseDups := by
  have hsome : ∀ email ∈ emails, (Text.nonBlank? email).map Text.lowercase = some email := by
    intro email hemail
    obtain ⟨htrimmed, hlower⟩ := h email hemail
    rw [htrimmed, Option.map_some, hlower]
  rw [normalizedEmails, List.filterMap_congr hsome, List.filterMap_some]

/-- The emails are in the form in which they are compared already. -/
theorem normalizedEmails_normalizedEmails (emails : List String) :
    normalizedEmails (normalizedEmails emails) = normalizedEmails emails := by
  rw [normalizedEmails_of_forms]
  · apply eraseDups_of_nodup
    rw [normalizedEmails]
    exact nodup_eraseDups _
  · intro email hemail
    obtain ⟨part, -, hne, rfl⟩ := mem_normalizedEmails.mp hemail
    have hlower : Text.lowercase (Text.trim part) ≠ "" := mt Text.lowercase_eq_empty.mp hne
    exact ⟨Text.nonBlank?_eq_some.mpr ⟨Text.trim_lowercase_trim part, hlower⟩,
      Text.lowercase_lowercase _⟩

end emails

/-! ### The list in the settings -/

namespace AccessConfig

/-- Blanks around the list do not matter. -/
theorem emailList_trim (text : String) : emailList (Text.trim text) = emailList text := by
  unfold emailList
  rw [normalizedEmails_eq, normalizedEmails_eq, Text.map_trim_split_trim (by decide)]

/-- A setting that is blank, or not set at all, is for no emails, as the list in it is. -/
theorem emailList_nonBlank (value : Option String) :
    ((value.bind Text.nonBlank?).map emailList).getD [] = emailList (value.getD "") := by
  have hempty : emailList "" = [] := by decide
  rcases value with _ | text
  · exact hempty.symm
  · rw [Option.bind_some, Option.getD_some, ← emailList_trim text]
    rcases hvalue : Text.nonBlank? text with _ | trimmed
    · have hblank : Text.trim text = "" := by
        by_contra hne
        rw [Text.nonBlank?_eq_some.mpr ⟨rfl, hne⟩] at hvalue
        cases hvalue
      rw [hblank, hempty]
      rfl
    · rw [(Text.nonBlank?_eq_some.mp hvalue).1]
      rfl

/-- A number that does not read is an error about its own setting. -/
theorem key_of_number_error {key : String} {value : Option String} {unset : Nat} {e : ConfigError}
    (h : number key value unset = .error e) : e.key = key := by
  unfold number at h
  split at h
  · cases h
  · split at h
    · cases h
    · cases h
      rfl

/-- What reading the settings makes of the list: the emails in it, and no error. -/
theorem ofLookup_cases (lookup : String → Option String) :
    (∃ e, ofLookup lookup = .error e ∧ e.key ∈ ["INSPECTRA_GRANT_CACHE_TTL_SECS",
      "INSPECTRA_GRANT_CACHE_CAPACITY", "INSPECTRA_SITE_CACHE_TTL_SECS"]) ∨
    ∃ config, ofLookup lookup = .ok config ∧
      config.bootstrapAdmins = emailList ((lookup "INSPECTRA_BOOTSTRAP_ADMINS").getD "") := by
  simp only [ofLookup]
  rcases hgrants : number "INSPECTRA_GRANT_CACHE_TTL_SECS" _ _ with e | grantCacheTtl
  · refine .inl ⟨e, rfl, ?_⟩
    rw [key_of_number_error hgrants]
    exact List.mem_cons_self
  rcases hcapacity : number "INSPECTRA_GRANT_CACHE_CAPACITY" _ _ with e | grantCacheCapacity
  · refine .inl ⟨e, rfl, ?_⟩
    rw [key_of_number_error hcapacity]
    exact List.mem_cons_of_mem _ List.mem_cons_self
  rcases hsites : number "INSPECTRA_SITE_CACHE_TTL_SECS" _ _ with e | siteCacheTtl
  · refine .inl ⟨e, rfl, ?_⟩
    rw [key_of_number_error hsites]
    exact List.mem_cons_of_mem _ (List.mem_cons_of_mem _ List.mem_cons_self)
  exact .inr ⟨_, rfl, emailList_nonBlank _⟩

end AccessConfig

/-! ### The list in a resolver -/

/-- The email is, in lower case, that of a part between the commas of the list, without the blanks
around the part. -/
def OnEmailList (text email : String) : Prop :=
  ∃ part ∈ Text.split ',' text, Text.trim part ≠ "" ∧
    Text.lowercase email = Text.lowercase (Text.trim part)

/-- A blank email is on no list. -/
theorem OnEmailList.trim_ne_empty {text email : String} (h : OnEmailList text email) :
    Text.trim email ≠ "" := by
  intro hblank
  obtain ⟨part, -, hne, hsame⟩ := h
  have hempty := Text.trim_lowercase_of_blank hblank
  rw [hsame, Text.trim_lowercase_trim, Text.lowercase_eq_empty] at hempty
  exact hne hempty

namespace AccessResolver

variable {σ : Type}

/-- The resolver treats as bootstrap administrators those whose emails are on the list. -/
structure HasList (resolver : AccessResolver σ) (text : String) : Prop where
  listed : ∀ principal, isBootstrapAdmin resolver.admins principal = true ↔
    OnEmailList text principal.email
  parts : ∀ admins,
    withAdmins ⟨resolver.platform, admins⟩ (Text.split ',' text) = resolver
  blank : ∀ principal, Text.trim principal.email = "" →
    isBootstrapAdmin resolver.admins principal = false

/-- What is made of the parts of a list has the list. -/
theorem hasList_withAdmins (resolver : AccessResolver σ) (text : String) :
    (resolver.withAdmins (Text.split ',' text)).HasList text := by
  have hlisted : ∀ principal,
      isBootstrapAdmin (resolver.withAdmins (Text.split ',' text)).admins principal = true ↔
        OnEmailList text principal.email := by
    intro principal
    rw [isBootstrapAdmin_iff]
    unfold OnBootstrapList withAdmins OnEmailList
    rw [mem_normalizedEmails]
    simp only [eq_comm]
  refine ⟨hlisted, fun _ => rfl, fun principal hblank => ?_⟩
  rw [Bool.eq_false_iff, ne_eq, hlisted]
  exact fun h => h.trim_ne_empty hblank

/-- The settings hold the list in the form in which the resolver wants it. -/
theorem ofConfig_eq_withAdmins (platform : Platform σ) {config : AccessConfig} {text : String}
    (h : config.bootstrapAdmins = AccessConfig.emailList text) :
    ofConfig platform config = withAdmins ⟨platform, []⟩ (Text.split ',' text) := by
  unfold ofConfig withAdmins
  rw [h, AccessConfig.emailList, normalizedEmails_normalizedEmails]

end AccessResolver

/-- Whatever text the setting has, reading the settings fails for another setting only, and the
resolver they ask for has the list. -/
theorem bootstrap_list_means_the_same {σ : Type} (platform : Platform σ)
    (lookup : String → Option String) :
    match AccessConfig.ofLookup lookup with
    | .error e => e.key ∈ ["INSPECTRA_GRANT_CACHE_TTL_SECS", "INSPECTRA_GRANT_CACHE_CAPACITY",
        "INSPECTRA_SITE_CACHE_TTL_SECS"]
    | .ok config => (AccessResolver.ofConfig platform config).HasList
        ((lookup "INSPECTRA_BOOTSTRAP_ADMINS").getD "") := by
  rcases AccessConfig.ofLookup_cases lookup with ⟨e, herror, hkey⟩ | ⟨config, hok, hadmins⟩
  · rw [herror]
    exact hkey
  · rw [hok]
    show (AccessResolver.ofConfig platform config).HasList _
    rw [AccessResolver.ofConfig_eq_withAdmins platform hadmins]
    exact AccessResolver.hasList_withAdmins _ _

example : (AccessConfig.ofLookup fun key =>
      if key = "INSPECTRA_BOOTSTRAP_ADMINS" then some "\u00A0Ops@Example.com,, ,ΟΔΟΣ@Example.gr "
      else none) =
    .ok { bootstrapAdmins := ["ops@example.com", "οδος@example.gr"] } := by
  decide +kernel

end TenantAccess
