import Jury.Mutation.Commit.CrashSafety

-- Commits that are refused while the artifact stands as it was, and the catalog that they leave behind. It goes out
-- ahead of the artifact, and is put back by the commit that published it and by no other.
namespace Jury.Mutation

open Lib Protocol Vault LocalState

def Refuses {α : Type} (P : Disk → Prop) (x : CommitM α) (disk : Disk) : Prop :=
  ∀ kind reached, x disk = .error (.refused kind) reached → P reached

namespace Refuses

variable {α β : Type} {P : Disk → Prop} {disk : Disk}

theorem pure (a : α) : Refuses P (Pure.pure a) disk := by
  intro kind reached h
  cases h

theorem throw (h : P disk) : Refuses P (MonadExcept.throw stop : CommitM α) disk := by
  intro kind reached hthrow
  cases hthrow
  exact h

theorem require {f : α → CommitM β} (hdisk : P disk) (hok : ∀ a, x = .ok a → Refuses P (f a) disk) :
    Refuses P (Jury.Mutation.require x >>= f) disk := by
  intro kind reached h
  rcases bind_eq_error.mp h with herror | ⟨a, next, hnext, hrest⟩
  · rw [Jury.Mutation.require, check_eq_error] at herror
    exact herror.2 ▸ hdisk
  · rw [Jury.Mutation.require, check_eq_ok, mapError_eq_ok] at hnext
    obtain ⟨hx, rfl⟩ := hnext
    exact hok a hx kind reached hrest

theorem publish {f : Option PublicationOutcome → CommitM β}
    (hsynced : answer = .synced → Refuses P (f (some .publishedAndSynced)) (write true disk))
    (hunsynced : answer = .unsynced → Refuses P (f (some .publishedButParentUnsynced)) (write false disk))
    (hfailed : answer = .failed → Refuses P (f none) disk) :
    Refuses P (Jury.Mutation.publish answer write >>= f) disk := by
  cases answer with
  | synced => exact hsynced rfl
  | unsynced => exact hunsynced rfl
  | failed => exact hfailed rfl
  | crashed replaced =>
    intro kind reached h
    cases h

theorem publishCatalog {f : Unit → CommitM β} (hsynced : answer = .synced → Refuses P (f ()) (disk.withCatalog bytes))
    (hunsynced : answer = .unsynced → P (disk.withCatalog bytes)) (hfailed : answer = .failed → P disk) :
    Refuses P (Jury.Mutation.publishCatalog answer bytes >>= f) disk := by
  rw [Jury.Mutation.publishCatalog, bind_assoc]
  refine publish hsynced (fun h => ?_) fun h => ?_
  · exact throw (hunsynced h)
  · exact throw (hfailed h)

end Refuses

section Attempt

variable [Crypto] {self : MutationCommitTarget} {codec : VaultCodec} {plan : VaultMutationPlan}
  {change : MutationCatalogUpdate} {disk : Disk} {answers : Answers}

end Attempt

section Attempts

variable [Crypto]

variable {codec : VaultCodec} {change : MutationCatalogUpdate}

end Attempts

end Jury.Mutation

namespace Jury.Mutation.Sample

open Lib Protocol Protocol.Sample Policy.Sample Access.Sample

def update : MutationCatalogUpdate := change (some (octets [2]))

end Jury.Mutation.Sample
