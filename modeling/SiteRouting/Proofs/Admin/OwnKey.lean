import Mathlib
import SiteRouting.Config.Validation
import SiteRouting.Proofs.Admin.Authorization
import SiteRouting.Proofs.Text.Trimming

namespace SiteRouting

open Http

namespace Admin

variable {settings : AdminSettings} {request : Request} {key : String}

theorem isReadable_append (value rest : String) :
    isReadable (value ++ rest) = (isReadable value && isReadable rest) := by
  rw [isReadable, String.toList_append, List.all_append]
  rfl

theorem isReadable_trim {value : String} (readable : isReadable value = true) :
    isReadable (Text.trim value) = true := by
  rw [isReadable, List.all_eq_true] at readable ⊢
  intro c inside
  rw [Text.toList_trim] at inside
  exact readable c (Text.mem_of_mem_stripChars inside)

theorem isAdmitted_iff :
    isAdmitted settings request = true ↔
      ∃ rest, request.Sends "authorization" ("Bearer " ++ rest) ∧ isReadable rest = true ∧
        Text.trim rest = settings.apiKey := by
  rw [isAdmitted, beq_iff_eq, bearerKey?_eq_some_iff]
  simp only [Request.header?_eq_some_iff, isReadable_append, Bool.and_eq_true]
  constructor
  · rintro ⟨rest, sends, ⟨_, readable⟩, presented⟩
    exact ⟨rest, sends, readable, presented⟩
  · rintro ⟨rest, sends, readable, presented⟩
    exact ⟨rest, sends, ⟨by decide, readable⟩, presented⟩

/-- A request that carries the key is heard if the key can be sent and
has no blank at either end. -/
theorem isAdmitted_iff_of_sends (sends : request.Sends "authorization" ("Bearer " ++ settings.apiKey)) :
    isAdmitted settings request = true ↔
      isReadable settings.apiKey = true ∧ Text.IsTrimmed settings.apiKey := by
  rw [isAdmitted_iff, ← Text.trim_eq_self_iff]
  constructor
  · rintro ⟨rest, sendsToo, readable, presented⟩
    have same : rest = settings.apiKey := by
      have values := Request.header?_eq_some_iff.mpr sendsToo
      rw [Request.header?_eq_some_iff.mpr sends, Option.some.injEq, ← String.toList_inj] at values
      rw [← String.toList_inj]
      simpa using values.symm
    rw [same] at readable presented
    exact ⟨readable, presented⟩
  · rintro ⟨readable, trimmed⟩
    exact ⟨settings.apiKey, sends, readable, trimmed⟩

/-- If any request at all is heard, then the one that carries the key is. -/
theorem isReadable_and_isTrimmed_of_isAdmitted (admitted : isAdmitted settings request = true) :
    isReadable settings.apiKey = true ∧ Text.IsTrimmed settings.apiKey := by
  obtain ⟨rest, _, readable, presented⟩ := isAdmitted_iff.mp admitted
  rw [← presented]
  exact ⟨isReadable_trim readable, Text.isTrimmed_trim rest⟩

end Admin

theorem Text.isBlank_iff_of_printable {c : Char} (printable : 0x20 ≤ c.toNat ∧ c.toNat ≤ 0x7E) :
    Text.isBlank c = true ↔ c = ' ' := by
  constructor
  · intro blank
    refine Char.toNat_inj.mp ?_
    simp only [Text.isBlank, Bool.or_eq_true, Bool.and_eq_true, decide_eq_true_eq, beq_iff_eq] at blank
    change c.toNat = 0x20
    omega
  · rintro rfl
    rfl

theorem Text.isTrimmed_iff_of_printable {s : String}
    (printable : ∀ c ∈ s.toList, 0x20 ≤ c.toNat ∧ c.toNat ≤ 0x7E) :
    Text.IsTrimmed s ↔ ¬ (s.toList.head? = some ' ' ∨ s.toList.getLast? = some ' ') := by
  rw [not_or]
  constructor
  · intro trimmed
    exact ⟨fun first => absurd (trimmed.front ' ' first) (by decide),
      fun last => absurd (trimmed.back ' ' last) (by decide)⟩
  · rintro ⟨front, back⟩
    have visible {c : Char} (inside : c ∈ s.toList) (other : c ≠ ' ') : Text.isBlank c = false :=
      Bool.eq_false_iff.mpr ((Text.isBlank_iff_of_printable (printable c inside)).not.mpr other)
    refine ⟨fun c first => visible (List.mem_of_head? first) ?_, fun c last =>
      visible (List.mem_of_getLast? last) ?_⟩
    · rintro rfl
      exact front first
    · rintro rfl
      exact back last

theorem Http.isReadable_of_printable {s : String}
    (printable : ∀ c ∈ s.toList, 0x20 ≤ c.toNat ∧ c.toNat ≤ 0x7E) : isReadable s = true := by
  rw [isReadable, List.all_eq_true]
  intro c inside
  obtain ⟨low, high⟩ := printable c inside
  simp [low, Nat.lt_succ_of_le high]

/-- A request that carries a printable key is admitted exactly if the key has no
space at either end. What a request presents is trimmed and the configured key
is not, so with a key that has a space there, no request is admitted at all. -/
theorem AdminSettings.admits_own_key (settings : AdminSettings)
    (printable : ∀ c ∈ settings.apiKey.toList, 0x20 ≤ c.toNat ∧ c.toNat ≤ 0x7E) :
    let spaced := settings.apiKey.toList.head? = some ' ' ∨ settings.apiKey.toList.getLast? = some ' '
    (∀ request : Request, request.Sends "authorization" ("Bearer " ++ settings.apiKey) →
      (Admin.isAdmitted settings request = true ↔ ¬ spaced)) ∧
    (spaced → ∀ request, Admin.isAdmitted settings request = false) := by
  intro spaced
  have trimmed_iff : Text.IsTrimmed settings.apiKey ↔ ¬ spaced := Text.isTrimmed_iff_of_printable printable
  constructor
  · intro request sends
    rw [Admin.isAdmitted_iff_of_sends sends, ← trimmed_iff]
    exact and_iff_right (Http.isReadable_of_printable printable)
  · intro isSpaced request
    refine Bool.eq_false_iff.mpr fun admitted => ?_
    exact trimmed_iff.mp (Admin.isReadable_and_isTrimmed_of_isAdmitted admitted).2 isSpaced

def spacedKeySite : Configuration where
  admin := { enabled := true, apiKey := " secret" }

def spacedKeyRequest : Request where
  method := "POST"
  target := "/admin/invalidate"
  headers := [("Authorization", "Bearer  secret")]

/-- Validation accepts a key that begins with a space, and a request that
carries it is turned away. -/
theorem spacedKeySite_locked_out :
    spacedKeySite.isValid = true ∧ spacedKeySite.admin.enabled = true ∧
      (∀ c ∈ spacedKeySite.admin.apiKey.toList, 0x20 ≤ c.toNat ∧ c.toNat ≤ 0x7E) ∧
      spacedKeyRequest.header? "authorization" = some ("Bearer " ++ spacedKeySite.admin.apiKey) ∧
      Admin.isAdmitted spacedKeySite.admin spacedKeyRequest = false :=
  ⟨by decide +kernel, rfl, by simp [spacedKeySite], by decide +kernel, by decide +kernel⟩

theorem innerSpaceKey_admitted :
    let settings : AdminSettings := { apiKey := "top secret" }
    let request : Request := { method := "GET", target := "/admin/status",
                               headers := [("Authorization", "Bearer top secret")] }
    (∀ c ∈ settings.apiKey.toList, 0x20 ≤ c.toNat ∧ c.toNat ≤ 0x7E) ∧
      Admin.isAdmitted settings request = true := by
  intro settings request
  have printable : ∀ c ∈ settings.apiKey.toList, 0x20 ≤ c.toNat ∧ c.toNat ≤ 0x7E := by
    simp [settings]
  have sends : request.Sends "authorization" ("Bearer " ++ settings.apiKey) :=
    ⟨[], _, [], rfl, by decide +kernel, rfl, nofun⟩
  exact ⟨printable, ((settings.admits_own_key printable).1 request sends).mpr (by decide +kernel)⟩

end SiteRouting
