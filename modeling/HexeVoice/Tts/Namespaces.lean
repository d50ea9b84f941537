import HexeVoice.Tts.Assets

/-!
# The namespaces of speech assets

The first segment of a key is the node that the asset belongs to.

## What is proved

**`namespace_isolated`**: in every run, a call that does not come from a node leaves the aliases in
the node's namespace as they are, unless it is a request in the mode `cached` whose key is in that
namespace: that mode is not asked for an owner.
-/

namespace HexeVoice.Tts

open HexeVoice.Library

section env

variable (env : Env)

/-- The node that the call comes from. -/
def Input.requester : Input → Option String
  | .synthesize _ _ requesterNodeId _ | .deleteNamedAsset _ _ requesterNodeId =>
    normalizedOwnerNodeId env requesterNodeId
  | .cleanupExpired _ | .cleanupOrphanedAudio _ _ | .cleanupUnreferencedRevisions _ _ => none

/-- A cached request for a key in the namespace, if there is one, is answered by the alias of the key
or fails. -/
def KeepsOut (node : String) (s : Store) : Input → Prop
  | .synthesize _ request _ synthesis =>
    request.delivery.mode = .cached → keyNamespace env (effectiveKey env request) = node →
      (s.aliases.get (effectiveKey env request)).any (answers env request) = true ∨
        truthyText synthesis.error ≠ none
  | _ => True

instance (node : String) (s : Store) (input : Input) : Decidable (KeepsOut env node s input) :=
  match input with
  | .synthesize _ _ _ _ => inferInstanceAs (Decidable (_ → _ → _ ∨ _))
  | .deleteNamedAsset _ _ _ | .cleanupExpired _ | .cleanupOrphanedAudio _ _
  | .cleanupUnreferencedRevisions _ _ => inferInstanceAs (Decidable True)

/-- Every alias that has an owner is in the namespace of the owner. -/
def OwnersHaveNamespaces (s : Store) : Prop :=
  ∀ key asset owner, s.aliases.get key = some asset → asset.ownerNodeId = some owner →
    keyNamespace env key = owner

variable {env}

theorem OwnersHaveNamespaces.congr {s s' : Store} (h : OwnersHaveNamespaces env s)
    (hsame : s'.aliases = s.aliases) : OwnersHaveNamespaces env s' := by
  intro key asset owner hget howner
  rw [hsame] at hget
  exact h key asset owner hget howner

theorem OwnersHaveNamespaces.set {s s' : Store} (h : OwnersHaveNamespaces env s) {key : String}
    {asset : Alias} (hset : s'.aliases = s.aliases.set key asset)
    (hasset : ∀ owner, asset.ownerNodeId = some owner → keyNamespace env key = owner) :
    OwnersHaveNamespaces env s' := by
  intro key' asset' owner hget howner
  rw [hset, Dict.get_set] at hget
  split at hget
  · next heq =>
    subst heq
    obtain rfl := Option.some.inj hget
    exact hasset owner howner
  · exact h key' asset' owner hget howner

theorem OwnersHaveNamespaces.erase {s s' : Store} (h : OwnersHaveNamespaces env s) {key : String}
    (herase : s'.aliases = s.aliases.erase key) : OwnersHaveNamespaces env s' := by
  intro key' asset' owner hget howner
  rw [herase, Dict.get_erase] at hget
  split at hget
  · cases hget
  · exact h key' asset' owner hget howner

theorem OwnersHaveNamespaces.step {s : Store} (h : OwnersHaveNamespaces env s) (input : Input) :
    OwnersHaveNamespaces env (step env s input) := by
  cases input with
  | synthesize now request requester synthesis =>
    rw [step_synthesize]
    obtain hsame | ⟨-, -, howned, revision, metadata, hset⟩ :=
      @synthesizeManaged_aliases env now request requester synthesis s
    · exact h.congr hsame
    · refine h.set hset fun owner howner => ?_
      simp only [aliasMetadata, Option.ite_none_right_eq_some] at howner
      rw [howned howner.1] at howner
      exact Option.some.inj howner.2
  | deleteNamedAsset now assetKey requester =>
    rw [step_deleteNamedAsset]
    obtain hsame | ⟨key', asset', -, -, herase⟩ :=
      @deleteNamedAsset_aliases env now assetKey requester s
    · exact h.congr hsame
    · exact h.erase herase
  | cleanupExpired now => exact h
  | cleanupOrphanedAudio now minAge => exact h
  | cleanupUnreferencedRevisions now limit =>
    exact h.congr (cleanupUnreferencedRevisions_aliases now limit s)

/-- **The step lemma**: a call of another node that keeps out leaves the namespace as it is. -/
theorem step_keepsOut {node : String} {s : Store} (h : OwnersHaveNamespaces env s) {input : Input}
    (hother : input.requester env ≠ some node) (hout : KeepsOut env node s input) {key : String}
    (hkey : keyNamespace env key = node) :
    (step env s input).aliases.get key = s.aliases.get key := by
  cases input with
  | synthesize now request requester synthesis =>
    rw [step_synthesize]
    obtain hsame | ⟨herror, hanswers, howned, revision, metadata, hset⟩ :=
      @synthesizeManaged_aliases env now request requester synthesis s
    · rw [hsame]
    · have hne : key ≠ effectiveKey env request := by
        intro heq
        rw [heq] at hkey
        cases howns : owned request.delivery.mode with
        | true =>
          apply hother
          rw [Input.requester, howned howns, hkey]
        | false =>
          have hcached : request.delivery.mode = .cached := by
            cases hmode : request.delivery.mode <;> simp [hmode, owned] at howns ⊢
          obtain hany | hfails := hout hcached hkey
          · cases hget : s.aliases.get (effectiveKey env request) with
            | none => simp [hget] at hany
            | some asset => simp [hget, hanswers asset hget] at hany
          · exact hfails herror
      rw [hset, Dict.get_set_of_ne _ _ hne]
  | deleteNamedAsset now assetKey requester =>
    rw [step_deleteNamedAsset]
    obtain hsame | ⟨key', asset, hget, howner, herase⟩ :=
      @deleteNamedAsset_aliases env now assetKey requester s
    · rw [hsame]
    · have hne : key ≠ key' := by
        rintro rfl
        unfold ownerMatches at howner
        cases hrequester : normalizedOwnerNodeId env requester with
        | none => simp [hrequester] at howner
        | some owner =>
          simp only [hrequester, decide_eq_true_eq] at howner
          have hnode := h key asset owner hget howner
          apply hother
          rw [Input.requester, hrequester, ← hnode, hkey]
      rw [herase, Dict.get_erase, if_neg hne]
  | cleanupExpired now => rfl
  | cleanupOrphanedAudio now minAge => rfl
  | cleanupUnreferencedRevisions now limit =>
    exact congrArg (Dict.get · key) (cleanupUnreferencedRevisions_aliases now limit s)

end env

/-- **Namespaces are isolated**, after every run, from the calls of other nodes that keep out of
them. -/
theorem namespace_isolated (env : Env) (node : String) (inputs : List Input) (input : Input)
    (hother : input.requester env ≠ some node)
    (hout : KeepsOut env node (run (step env) {} inputs) input) (key : String)
    (hkey : keyNamespace env key = node) :
    (run (step env) {} (inputs ++ [input])).aliases.get key =
      (run (step env) {} inputs).aliases.get key := by
  have hinv : OwnersHaveNamespaces env (run (step env) {} inputs) := by
    have hall : AllSteps (step env) (fun _ _ => True) {} inputs :=
      allSteps_of_forall (fun _ _ => trivial) _ inputs
    refine run_invariant (fun s input h _ => h.step input) ?_ hall
    intro key asset owner hget
    cases hget
  rw [run_append]
  exact step_keepsOut hinv hother hout hkey

/-- A request for an asset of the kitchen. -/
def doorbell (mode : DeliveryMode) (text : String) : TtsSynthesizeRequest where
  text := text
  delivery := { mode := mode, assetKey := some "Kitchen/doorbell" }

theorem namespace_isolated_kitchen :
    (run (step asciiEnv) {} ([.synthesize 0 (doorbell .namedAsset "Ding") (some "kitchen") {}] ++
        [.synthesize 1 (doorbell .namedAsset "Dong") (some "hall") {}])).aliases.get
          "Kitchen/doorbell" =
      (run (step asciiEnv) {}
        [.synthesize 0 (doorbell .namedAsset "Ding") (some "kitchen") {}]).aliases.get
          "Kitchen/doorbell" :=
  namespace_isolated asciiEnv "kitchen" [.synthesize 0 (doorbell .namedAsset "Ding") (some "kitchen") {}]
    (.synthesize 1 (doorbell .namedAsset "Dong") (some "hall") {}) (by decide +kernel)
    (by decide +kernel) "Kitchen/doorbell" (by decide +kernel)

/-- In the mode `cached` the hall replaces the asset of the kitchen. -/
theorem namespace_overwritten :
    ¬∀ (env : Env) (node : String) (inputs : List Input) (input : Input),
      input.requester env ≠ some node → ∀ key, keyNamespace env key = node →
        (run (step env) {} (inputs ++ [input])).aliases.get key =
          (run (step env) {} inputs).aliases.get key := by
  intro h
  have hkitchen := h asciiEnv "kitchen"
    [.synthesize 0 (doorbell .namedAsset "Ding") (some "kitchen") {}]
    (.synthesize 1 (doorbell .cached "Dong") (some "hall") {}) (by decide +kernel)
    "Kitchen/doorbell" (by decide +kernel)
  revert hkitchen
  decide +kernel

end HexeVoice.Tts
