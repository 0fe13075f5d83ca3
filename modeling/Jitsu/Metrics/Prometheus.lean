import Mathlib.Data.List.Basic

/-! # Metric labels and the metrics relay

Two functions of `server/metrics/prometheus.go` carry logic of their own:

* **`extractLabels`** cuts a destination name `<projectID>.<destinationID>` into the two labels of
  a metric. It splits the name at every `.` with `strings.Split`, modelled here by **`splitOn`**
  on the characters of the name (the separator is one ASCII byte, which never occurs inside the
  encoding of another character). A name with a dot-free project and a dot-free destination is
  cut back into exactly its two parts, and whatever follows a second dot is dropped
  (`extractLabels_first_two_parts`); a name without a dot gets the project `-`.
* **`initRelay`** fills the metrics relay from its defaults, the host name and the `viper`
  config, and returns `nil` when the config disables the relay (`initRelay_eq_none_iff`). -/

namespace Jitsu.Metrics

/-! ## (1) `extractLabels` -/

/-- `strings.Split(s, string(sep))` on the characters of `s`: the pieces between the separators,
one more than there are separators. -/
def splitOn (sep : Char) : List Char → List (List Char)
  | [] => [[]]
  | c :: cs =>
    if c = sep then [] :: splitOn sep cs
    else
      match splitOn sep cs with
      | [] => [[c]]
      | w :: ws => (c :: w) :: ws

/-- A piece without the separator is a piece on its own, with what follows it split after it. -/
theorem splitOn_append_of_not_mem {sep : Char} {w : List Char} (hw : sep ∉ w)
    (rest : List Char) :
    splitOn sep (w ++ sep :: rest) = w :: splitOn sep rest := by
  induction w with
  | nil => simp [splitOn]
  | cons c w ih =>
    have hc : c ≠ sep := fun h => hw (h ▸ List.mem_cons_self c w)
    simp [splitOn, hc, ih (fun h => hw (List.mem_cons_of_mem c h))]

/-- Without the separator there is one piece. -/
theorem splitOn_of_not_mem {sep : Char} {w : List Char} (hw : sep ∉ w) :
    splitOn sep w = [w] := by
  induction w with
  | nil => rfl
  | cons c w ih =>
    have hc : c ≠ sep := fun h => hw (h ▸ List.mem_cons_self c w)
    simp [splitOn, hc, ih (fun h => hw (List.mem_cons_of_mem c h))]

/-- **`extractLabels`**: `splitted[0]` and `splitted[1]` when `len(splitted) > 1`, and the project
`-` with the whole name otherwise. -/
def extractLabels (destinationName : String) : String × String :=
  match (splitOn '.' destinationName.data).map String.mk with
  | projectID :: destinationID :: _ => (projectID, destinationID)
  | _ => ("-", destinationName)

/-- **The labels of a destination name are its first two dot-separated parts**: a name made of a
dot-free project, a dot, a dot-free destination and possibly a further dot and anything after
it gets exactly that project and that destination; the rest is dropped. -/
theorem extractLabels_first_two_parts (projectID destinationID : String)
    (hp : '.' ∉ projectID.data) (hd : '.' ∉ destinationID.data) (rest : Option String) :
    extractLabels (projectID ++ "." ++ destinationID ++ (rest.elim "" ("." ++ ·))) =
      (projectID, destinationID) := by
  have hsplit : splitOn '.' (projectID ++ "." ++ destinationID ++ (rest.elim "" ("." ++ ·))).data =
      projectID.data :: destinationID.data :: (rest.elim [] fun r => splitOn '.' r.data) := by
    cases rest with
    | none =>
      simp only [Option.elim_none, String.data_append, List.append_assoc, List.singleton_append,
        List.append_nil]
      rw [splitOn_append_of_not_mem hp, splitOn_of_not_mem hd]
    | some r =>
      simp only [Option.elim_some, String.data_append, List.append_assoc, List.singleton_append,
        List.cons_append, List.nil_append]
      rw [splitOn_append_of_not_mem hp, splitOn_append_of_not_mem hd]
  simp only [extractLabels, hsplit, List.map_cons]

theorem sample_extractLabels :
    extractLabels ("project" ++ "." ++ "events" ++ (some "backup").elim "" ("." ++ ·)) =
      ("project", "events") :=
  extractLabels_first_two_parts "project" "events" (by decide) (by decide) (some "backup")

/-- A name without a dot is a destination of the project `-`. -/
theorem extractLabels_of_undotted {destinationName : String} (h : '.' ∉ destinationName.data) :
    extractLabels destinationName = ("-", destinationName) := by
  simp [extractLabels, splitOn_of_not_mem h]

/-! ## (2) `InitRelay` -/

/-- The fields of a `Relay`. -/
structure Relay where
  /-- `URL`. -/
  url : String
  /-- `HostID`. -/
  hostID : String
  /-- `DeploymentID`. -/
  deploymentID : String
  /-- `Timeout`, a `time.Duration` in nanoseconds. -/
  timeout : Int
  deriving DecidableEq, Repr

/-- What the `viper` config of the relay answers. -/
structure RelayViper where
  /-- `viper.GetBool("disabled")`. -/
  disabled : Bool
  /-- `viper.GetString("url")`. -/
  url : String
  /-- `viper.GetString("deployment_id")`. -/
  deploymentID : String
  /-- `viper.GetDuration("timeout")` when `viper.IsSet("timeout")`. -/
  timeout : Option Int
  deriving DecidableEq, Repr

/-- `Unknown`. -/
def unknown : String := "unknown"

/-- **`InitRelay`** given `DefaultRelayURL` (declared outside the file we have), the answer of
`os.Hostname()` and the `viper` config, `nil` being `none`. -/
def initRelay (defaultRelayURL clusterID : String) (hostname : Except String String)
    (viper : Option RelayViper) : Option Relay :=
  let relay : Relay := ⟨defaultRelayURL, unknown, clusterID, 5 * 1000000000⟩
  let relay := match hostname with
    | .ok hostID => { relay with hostID := hostID }
    | .error _ => relay
  match viper with
  | none => some relay
  | some v =>
    if v.disabled then none
    else
      some { relay with
        url := if v.url ≠ "" then v.url else relay.url
        deploymentID := if v.deploymentID ≠ "" then v.deploymentID else relay.deploymentID
        timeout := v.timeout.getD relay.timeout }

/-- `InitRelay` returns `nil` exactly when a `viper` config is given and disables the relay. -/
theorem initRelay_eq_none_iff (defaultRelayURL clusterID : String)
    (hostname : Except String String) (viper : Option RelayViper) :
    initRelay defaultRelayURL clusterID hostname viper = none ↔
      ∃ v, viper = some v ∧ v.disabled = true := by
  unfold initRelay
  cases viper with
  | none => simp
  | some v => cases hv : v.disabled <;> simp [hv]

end Jitsu.Metrics
