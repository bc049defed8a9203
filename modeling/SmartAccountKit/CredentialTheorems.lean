import SmartAccountKit.ConnectionAddress
import SmartAccountKit.Credentials
import SmartAccountKit.DeploymentTheorems

/-!
# The credential storage

What reading a record gives after a write, and which programs write to the
record of which credential.
-/

namespace SmartAccountKit
open Lib

/-! ## Reading after writing -/

namespace CredentialStore

variable {store : CredentialStore} {c credential : StoredCredential} {credentialId : String}
  {updates : CredentialUpdates}

theorem save_cons_self (h : c.credentialId = credential.credentialId) :
    save (c :: store) credential =
      credential :: store.map fun c =>
        if c.credentialId == credential.credentialId then credential else c := by
  have hthere : (c :: store).any (fun c => c.credentialId == credential.credentialId) = true := by
    simp [h]
  rw [save, if_pos hthere, List.map_cons, if_pos (by simpa using h)]

theorem save_cons_other (h : c.credentialId ≠ credential.credentialId) :
    save (c :: store) credential = c :: save store credential := by
  unfold save
  rw [List.any_cons, beq_eq_false_iff_ne.mpr h, Bool.false_or]
  split_ifs
  · rw [List.map_cons, if_neg (by simpa using h)]
  · rfl

/-- Saving a record and updating it is saving the updated one. -/
theorem update_save :
    (save store credential).update credential.credentialId updates =
      save store (credential.apply updates) := by
  induction store with
  | nil => simp [save, update, StoredCredential.apply]
  | cons c store ih =>
    by_cases h : c.credentialId = credential.credentialId
    · have hupdated : save (c :: store) (credential.apply updates) = _ := save_cons_self h
      rw [save_cons_self h, hupdated, update, List.map_cons, List.map_map, if_pos (by simp)]
      refine congrArg _ (List.map_congr_left fun c' _ => ?_)
      by_cases h' : c'.credentialId = credential.credentialId
      · simp [h', StoredCredential.apply]
      · simp [h', StoredCredential.apply]
    · have hupdated : save (c :: store) (credential.apply updates) = _ := save_cons_other h
      rw [save_cons_other h, hupdated, ← ih, update, List.map_cons, if_neg (by simpa using h)]
      rfl

theorem get_save : (save store credential).get credentialId =
    if credential.credentialId = credentialId then some credential else store.get credentialId := by
  induction store with
  | nil =>
    rw [save, if_neg (by simp), List.nil_append, get, List.find?_singleton]
    simp [get]
  | cons c store ih =>
    by_cases h : c.credentialId = credential.credentialId
    · rw [save_cons_self h]
      by_cases hid : credential.credentialId = credentialId
      · simp [get, hid]
      · have hc : c.credentialId ≠ credentialId := fun h' => hid (h.symm.trans h')
        rw [if_neg hid, get, get, List.find?_cons_of_neg (by simpa using hid),
          List.find?_cons_of_neg (by simpa using hc), List.find?_map]
        have hcongr : ((fun c : StoredCredential => c.credentialId == credentialId) ∘ fun c =>
            if c.credentialId == credential.credentialId then credential else c) =
              fun c => c.credentialId == credentialId := by
          funext c'
          by_cases h' : c'.credentialId = credential.credentialId
          · simp [h']
          · simp [h']
        rw [hcongr]
        cases hfound : List.find? (fun c => c.credentialId == credentialId) store with
        | none => rfl
        | some c' =>
          have hc' : c'.credentialId = credentialId := by simpa using List.find?_some hfound
          simp [hc', Ne.symm hid]
    · rw [save_cons_other h]
      by_cases hc : c.credentialId = credentialId
      · have hid : credential.credentialId ≠ credentialId := fun h' => h (hc.trans h'.symm)
        simp [get, hc, hid]
      · rw [get, List.find?_cons_of_neg (by simpa using hc), ← get, ih, get, get,
          List.find?_cons_of_neg (by simpa using hc)]

theorem get_update {id : String} : (update store id updates).get credentialId =
    if id = credentialId then (store.get credentialId).map (·.apply updates)
    else store.get credentialId := by
  have hcongr : ((fun c : StoredCredential => c.credentialId == credentialId) ∘ fun c =>
      if c.credentialId == id then c.apply updates else c) =
        fun c => c.credentialId == credentialId := by
    funext c
    by_cases h : c.credentialId = id
    · simp [h, StoredCredential.apply]
    · simp [h]
  rw [get, update, List.find?_map, hcongr, get]
  cases hfound : store.find? fun c => c.credentialId == credentialId with
  | none => simp
  | some c =>
    have hc : c.credentialId = credentialId := by simpa using List.find?_some hfound
    by_cases hid : id = credentialId
    · simp [hc, hid]
    · simp [hc, hid, Ne.symm hid]

theorem get_delete_other {id : String} (h : id ≠ credentialId) :
    (delete store id).get credentialId = store.get credentialId := by
  rw [get, delete, List.find?_filter, get]
  refine congrFun (congrArg _ (funext fun c => ?_)) store
  by_cases hc : c.credentialId = credentialId
  · simp [hc, Ne.symm h]
  · simp [hc]

/-- A saved record is the first with a property that it has if no record before its place has the
property. -/
theorem find?_save_iff {p : StoredCredential → Bool} (hp : p credential = true) :
    (save store credential).find? p = some credential ↔
      ∀ c ∈ store.takeWhile fun c => c.credentialId != credential.credentialId, p c = false := by
  induction store with
  | nil => simp [save, hp]
  | cons c store ih =>
    by_cases h : c.credentialId = credential.credentialId
    · rw [save_cons_self h, List.find?_cons_of_pos hp]
      simp [h]
    · rw [save_cons_other h, List.takeWhile_cons_of_pos (by simpa using h), List.forall_mem_cons]
      cases hc : p c with
      | true =>
        rw [List.find?_cons_of_pos hc]
        refine iff_of_false (fun heq => h ?_) fun h => by cases h.1
        rw [Option.some.inj heq]
      | false => rw [List.find?_cons_of_neg (by simp [hc]), ih, and_iff_right rfl]

end CredentialStore

/-! ## Programs that keep the records -/

/-- A request that writes a record. -/
def WalletRequest.writesRecord : WalletRequest → Bool
  | .saveCredential _ | .updateCredential _ _ | .deleteCredential _ => true
  | _ => false

/-- A program that writes no record. -/
def KeepsRecords {ε α : Type} (p : Program WalletEnvironment ε α) : Prop :=
  Program.Exchanges (fun request : WalletRequest => request.writesRecord = false) (fun _ => True) p

theorem keepsRecords_await {ε α : Type} {r : WalletRequest} {read : WalletReply r → Except ε α}
    (h : r.writesRecord = false) :
    KeepsRecords (Program.await (I := WalletEnvironment) r read) :=
  Program.exchanges_await h fun _ _ => trivial

theorem WalletRequest.writesRecord_of_isWrite {r : WalletRequest} (h : r.isWrite = false) :
    r.writesRecord = false := by
  cases r <;> first | rfl | exact nomatch h

theorem WritesNothing.keepsRecords {ε α : Type} {p : Program WalletEnvironment ε α}
    (hp : WritesNothing p) : KeepsRecords p :=
  Program.Exchanges.mono hp fun _ hr => WalletRequest.writesRecord_of_isWrite hr

theorem walletMemory_keeps (store : CredentialStore) :
    walletMemory.Keeps (fun r : WalletRequest => r.writesRecord = false)
      (fun s => s.credentials = store) := by
  intro r s reply s' hr hserve hs
  cases r with
  | saveCredential _ => exact nomatch hr
  | updateCredential _ _ => exact nomatch hr
  | deleteCredential _ => exact nomatch hr
  | getCredential _ | getAllCredentials | getSession | saveSession _ | clearSession =>
    rw [← (Prod.mk.inj (Option.some.inj hserve)).2]
    exact hs
  | _ => exact nomatch hserve

/-- The records are what they were after a run that writes none. -/
theorem KeepsRecords.credentials {ε α : Type} {p : Program WalletEnvironment ε α}
    {t : History WalletEnvironment} {x : Except ε α} {s s' : WalletStorage} (hp : KeepsRecords p)
    (hrun : Program.Run p t x) (hthreads : walletMemory.Threads s t s') :
    s'.credentials = s.credentials :=
  (walletMemory_keeps s.credentials).threads hthreads (fun e he => (hp t x hrun e he).1) rfl

theorem buildDeployTransaction_writesNothing (config : WalletConfig)
    (credentialId publicKey : Bytes) (policies : Option (List PolicyConfig)) :
    WritesNothing (buildDeployTransaction config credentialId publicKey policies) := by
  have hask : ∀ {ε α : Type} {r : WalletRequest} {read : WalletReply r → Except ε α},
      r.isWrite = false → WritesNothing (Program.await (I := WalletEnvironment) r read) :=
    fun hr => Program.exchanges_await hr fun _ _ => trivial
  refine Program.exchanges_ofExcept_bind fun _ _ => ?_
  refine Program.exchanges_ofExcept_bind fun _ _ => ?_
  refine Program.exchanges_bind (hask rfl) fun deployment _ _ => ?_
  split
  · refine Program.exchanges_ofExcept_bind fun _ _ => ?_
    refine Program.exchanges_ofExcept_bind fun _ _ => ?_
    refine Program.exchanges_bind (hask rfl) fun _ _ _ => ?_
    refine Program.exchanges_ofExcept_bind fun _ _ => ?_
    exact Program.exchanges_bind (hask rfl) fun _ _ _ => Program.exchanges_done
  · exact Program.exchanges_done

theorem prepareDeploymentArtifacts_writesNothing (deployment : DeployTransaction) :
    WritesNothing (prepareDeploymentArtifacts deployment) := by
  cases deployment with
  | authEntry func auth => exact Program.exchanges_done
  | assembled tx =>
    refine Program.exchanges_bind (Program.exchanges_await rfl fun _ _ => trivial)
      fun signed _ _ => ?_
    cases signed <;> exact Program.exchanges_done

theorem requireCredential_keepsRecords (credentialId : String) :
    KeepsRecords (requireCredential credentialId) := by
  refine Program.exchanges_bind (keepsRecords_await rfl) fun credential _ _ => ?_
  cases credential <;> exact Program.exchanges_done

end SmartAccountKit
