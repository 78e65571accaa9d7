import ZeroOS.Identity.Updates
import ZeroOS.Lib.Map

/-!
The generation of Neural Keys, one request after another.
-/

namespace ZeroOS.Identity.NeuralKey

inductive KeyError where
  | IdentityKeyAlreadyExists
  | CryptoError (reason : String)
  | StorageError (reason : String)
deriving DecidableEq

abbrev PublicKey := Vector UInt8 32

structure LocalKeyStore where
  userId : U128
  identitySigningPublicKey : PublicKey
  createdAt : UInt64
deriving DecidableEq

-- The shards themselves are of any type.
structure EncryptedShardStore (σ : Type) where
  userId : U128
  encryptedShards : σ
  createdAt : UInt64
deriving DecidableEq

-- The keystore, by the user id in the path.
structure Keystore (σ : Type) where
  keys : BTreeMap U128 LocalKeyStore
  shards : BTreeMap U128 (EncryptedShardStore σ)

-- A request with all that is answered on its way: what is generated for it, and how the file
-- system and the keystore answer.
structure Request (σ : Type) where
  userId : U128
  generated : Except KeyError (PublicKey × σ)
  now : UInt64
  directory : Except String Unit
  existsCheck : Except String Unit
  keyWrite : Except String Unit
  shardWrite : Except String Unit
  rollback : Except String Unit

-- `derive_user_id_from_pubkey` may be any function.
variable {σ : Type} (derive : PublicKey → U128)

def storeGeneratedKeys (store : Keystore σ) (request : Request σ) (key : PublicKey) (shards : σ) :
    Keystore σ × Except KeyError U128 :=
  let derived := derive key
  match request.keyWrite with
  | .error e => (store, .error (.StorageError s!"Keystore write failed for neural key: {e}"))
  | .ok () =>
    let keys := store.keys.insert derived ⟨request.userId, key, request.now⟩
    match request.shardWrite with
    | .error e =>
      (⟨if request.rollback = .ok () then keys.erase derived else keys, store.shards⟩,
        .error (.StorageError s!"Keystore write failed for encrypted shards: {e}"))
    | .ok () =>
      (⟨keys, store.shards.insert derived ⟨request.userId, shards, request.now⟩⟩, .ok derived)

def generate (store : Keystore σ) (request : Request σ) : Keystore σ × Except KeyError U128 :=
  match request.directory with
  | .error e => (store, .error (.StorageError e))
  | .ok () =>
    match request.existsCheck with
    | .error e => (store, .error (.StorageError s!"Key exists check failed: {e}"))
    | .ok () =>
      if request.userId ∈ store.keys then (store, .error .IdentityKeyAlreadyExists)
      else
        match request.generated with
        | .error e => (store, .error e)
        | .ok (key, shards) => storeGeneratedKeys derive store request key shards

structure Request.Complete (request : Request σ) : Prop where
  directory : request.directory = .ok ()
  existsCheck : request.existsCheck = .ok ()
  keyWrite : request.keyWrite = .ok ()
  shardWrite : request.shardWrite = .ok ()

def step (store : Keystore σ) (request : Request σ) : Keystore σ :=
  (generate derive store request).1

variable {derive} {store : Keystore σ} {request : Request σ}

lemma Request.Complete.generate_eq (hc : request.Complete) :
    generate derive store request =
      if request.userId ∈ store.keys then (store, .error .IdentityKeyAlreadyExists)
      else
        match request.generated with
        | .error e => (store, .error e)
        | .ok (key, shards) =>
          (⟨store.keys.insert (derive key) ⟨request.userId, key, request.now⟩,
            store.shards.insert (derive key) ⟨request.userId, shards, request.now⟩⟩,
            .ok (derive key)) := by
  simp only [generate, storeGeneratedKeys, hc.directory, hc.existsCheck, hc.keyWrite, hc.shardWrite]

lemma Request.Complete.step_mem (hc : request.Complete) (hm : user ∈ store.keys) :
    user ∈ (step derive store request).keys := by
  rw [step, hc.generate_eq]
  split
  · exact hm
  · split
    · exact hm
    · exact (BTreeMap.mem_insert user).mpr (.inr hm)

-- A user's next request is refused exactly if the id that the generated key gives is the user's
-- own: the key is looked for under the one and stored under the other.
theorem one_key_per_user_iff (hc : request.Complete)
    (hg : request.generated = .ok (key, shards))
    (hs : (generate derive store request).2 = .ok derived) :
    (∀ (later : List (Request σ)) (again : Request σ), (∀ other ∈ later, other.Complete) →
        again.Complete → again.userId = request.userId →
        let after := Run.run (step derive) (step derive store request) later
        generate derive after again = (after, .error .IdentityKeyAlreadyExists)) ↔
      derive key = request.userId := by
  have hn : request.userId ∉ store.keys := by
    intro hm
    rw [hc.generate_eq, if_pos hm] at hs
    cases hs
  have ha : step derive store request =
      ⟨store.keys.insert (derive key) ⟨request.userId, key, request.now⟩,
        store.shards.insert (derive key) ⟨request.userId, shards, request.now⟩⟩ := by
    rw [step, hc.generate_eq, if_neg hn, hg]
  constructor
  · intro hr
    have he := congrArg Prod.snd (hr [] request (by simp) hc rfl)
    rw [Run.run_nil, hc.generate_eq, hg] at he
    split at he
    · next hm =>
      rw [ha] at hm
      exact (((BTreeMap.mem_insert _).mp hm).resolve_right hn).symm
    · cases he
  · intro hd later again hl hac hu after
    have hm : request.userId ∈ after.keys := by
      refine Run.run_invariant (step derive) (fun _ other => other.Complete)
        (request.userId ∈ ·.keys) (fun _ _ hm ho => ho.step_mem hm) ?_
        (Run.along_of_forall_mem _ hl _)
      rw [ha, hd]
      exact (BTreeMap.mem_insert _).mpr (.inl rfl)
    rw [hac.generate_eq, if_pos (hu ▸ hm)]

def sample (key : UInt8) : Request Nat :=
  ⟨1, .ok (Vector.replicate 32 key, 0), 5, .ok (), .ok (), .ok (), .ok (), .ok ()⟩

lemma sample_complete (key : UInt8) : (sample key).Complete := ⟨rfl, rfl, rfl, rfl⟩

def firstByte (key : PublicKey) : U128 := key[0].toNat

theorem one_key_per_user_iff_own :
    (generate firstByte ⟨∅, ∅⟩ (sample 1)).2 = .ok 1 ∧
      generate firstByte (step firstByte ⟨∅, ∅⟩ (sample 1)) (sample 2) =
        (step firstByte ⟨∅, ∅⟩ (sample 1), .error .IdentityKeyAlreadyExists) := by
  have hs : (generate firstByte ⟨∅, ∅⟩ (sample 1)).2 = .ok 1 := by decide +kernel
  have hr := (one_key_per_user_iff (sample_complete 1) rfl hs).mpr (by decide +kernel)
  exact ⟨hs, hr [] (sample 2) (by simp) (sample_complete 2) rfl⟩

theorem second_key_for_user : (generate firstByte ⟨∅, ∅⟩ (sample 2)).2 = .ok 2 ∧
    (generate firstByte (step firstByte ⟨∅, ∅⟩ (sample 2)) (sample 3)).2 = .ok 3 := by
  decide +kernel

end ZeroOS.Identity.NeuralKey
