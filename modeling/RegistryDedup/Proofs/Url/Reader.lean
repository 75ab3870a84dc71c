import RegistryDedup.Proofs.Except
import RegistryDedup.Url.Reader

/-!
# URLs that were read

- `Authority.Hosted`: user and password are those at a host.
- `read_hosted`: so they are in every URL that was read.
-/

namespace RegistryDedup

open Text

/-- User and password are those at a host. -/
def Authority.Hosted (a : Authority) : Prop :=
  a.host = [] → a.credentials = none

namespace Url

variable {scheme s rest path : List Char} {last missing : Bool} {a : Authority}
  {authority : Option Authority}

theorem requireHost_eq_ok {u : Unit} (h : requireHost missing = .ok u) : missing = false := by
  cases missing with
  | false => rfl
  | true => cases h

theorem readAuthority_hosted (h : readAuthority scheme last s = .ok (a, rest)) : a.Hosted := by
  unfold readAuthority at h
  dsimp only at h
  -- Of all the steps, the last check is the one that counts.
  obtain ⟨⟨credentials, rest'⟩, -, h⟩ := bind_eq_ok_iff.mp h
  obtain ⟨-, -, h⟩ := bind_eq_ok_iff.mp h
  obtain ⟨host, -, h⟩ := bind_eq_ok_iff.mp h
  obtain ⟨-, -, h⟩ := bind_eq_ok_iff.mp h
  obtain ⟨⟨port, rest''⟩, -, h⟩ := bind_eq_ok_iff.mp h
  obtain ⟨_, hcheck, h⟩ := bind_eq_ok_iff.mp h
  obtain ⟨rfl, -⟩ := Prod.mk.inj (Except.ok.inj h)
  have hpair := requireHost_eq_ok hcheck
  intro (hhost : host = [])
  rw [hhost, List.isEmpty_nil, Bool.true_and] at hpair
  exact Option.isNone_iff_eq_none.mp (Option.isSome_eq_false_iff.mp hpair)

theorem readAfterSlashes_hosted (h : readAfterSlashes scheme last s = .ok (authority, path)) :
    ∀ a ∈ authority, a.Hosted := by
  unfold readAfterSlashes at h
  dsimp only at h
  obtain ⟨⟨a, rest⟩, hread, h⟩ := bind_eq_ok_iff.mp h
  have hauthority : authority = some a := by
    dsimp only at h
    split at h
    · exact (Prod.mk.inj (Except.ok.inj h)).1.symm
    · exact (Prod.mk.inj (Except.ok.inj h)).1.symm
  rw [hauthority]
  rintro _ ⟨⟩
  exact readAuthority_hosted hread

theorem readFile_hosted (h : readFile s = .ok (authority, path)) :
    ∀ a ∈ authority, a.Hosted := by
  have hnone : ∀ host : List Char, ∀ a ∈ some { noAuthority with host }, a.Hosted := by
    rintro host _ ⟨⟩
    exact fun _ => rfl
  unfold readFile at h
  dsimp only at h
  split at h
  · obtain ⟨rfl, -⟩ := Prod.mk.inj (Except.ok.inj h)
    exact hnone []
  split at h
  · obtain ⟨rfl, -⟩ := Prod.mk.inj (Except.ok.inj h)
    exact hnone []
  split at h
  · obtain ⟨rfl, -⟩ := Prod.mk.inj (Except.ok.inj h)
    exact hnone []
  obtain ⟨host, -, h⟩ := bind_eq_ok_iff.mp h
  split at h
  · obtain ⟨rfl, -⟩ := Prod.mk.inj (Except.ok.inj h)
    exact hnone []
  · obtain ⟨rfl, -⟩ := Prod.mk.inj (Except.ok.inj h)
    split
    · exact hnone []
    · exact hnone host

/-- In every URL that was read, user and password are those at a host. -/
theorem read_hosted {s : String} {u : Url} (h : Url.read s = .ok u) :
    ∀ a ∈ u.authority, a.Hosted := by
  unfold Url.read at h
  split at h
  · cases h
  · obtain ⟨⟨authority, path⟩, hread, h⟩ := bind_eq_ok_iff.mp h
    obtain rfl := Except.ok.inj h
    show ∀ a ∈ authority, a.Hosted
    unfold readRest at hread
    dsimp only at hread
    split at hread
    · exact readAfterSlashes_hosted hread
    · exact readFile_hosted hread
    · split at hread
      · exact readAfterSlashes_hosted hread
      · obtain ⟨rfl, -⟩ := Prod.mk.inj (Except.ok.inj hread)
        simp
      · obtain ⟨rfl, -⟩ := Prod.mk.inj (Except.ok.inj hread)
        simp

end Url

end RegistryDedup
