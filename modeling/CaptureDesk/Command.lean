import CaptureDesk.Outcome

/-!
# Commands of the backend

The catalogue of the requests that the backend understands.  A request travels wrapped in an object
under the name `req`, except for the commands that take none: their request is sent bare.
-/

namespace CaptureDesk

/-- A request to the backend: the name of a command and its argument. -/
structure Request where
  command : Str
  body : Value
  deriving DecidableEq, Repr

namespace Request

/-- The commands of the backend. -/
def commands : List String :=
  ["app_get_build_info", "app_get_permissions_status", "settings_get", "settings_set",
    "network_allowlist_get", "network_allowlist_set", "session_create", "session_list",
    "session_get", "session_close", "timeline_get_keyframes", "timeline_get_events",
    "timeline_get_thumbnail", "capture_get_config", "capture_set_config", "capture_start",
    "capture_stop", "capture_get_status", "ocr_schedule", "ocr_get_status", "ocr_search",
    "ocr_get_blocks_for_frame", "evidence_for_time_range", "evidence_for_step",
    "evidence_find_text", "evidence_get_coverage", "steps_generate_candidates", "steps_list",
    "steps_get", "steps_apply_edit", "steps_validate", "anchors_list_for_step",
    "anchors_reacquire", "anchors_manual_set", "anchors_debug", "tutorial_generate",
    "tutorial_export_pack", "tutorial_validate_export", "explain_this_screen", "proof_get_view",
    "runbook_create", "runbook_update", "runbook_export", "proof_export_bundle", "verifier_list",
    "verifier_run", "verifier_get_result", "models_list", "models_register", "models_remove",
    "model_roles_get", "model_roles_set", "ollama_list", "ollama_pull", "ollama_run", "mlx_run",
    "bench_run", "bench_list", "agent_pipelines_list", "agent_pipeline_run",
    "agent_pipeline_report", "exports_list", "export_verify_bundle", "jobs_list", "jobs_get",
    "jobs_cancel"]

/-- The commands whose request is sent bare. -/
def bareCommands : List Str :=
  ["app_get_build_info", "app_get_permissions_status", "settings_get", "network_allowlist_get",
    "capture_get_config", "model_roles_get", "agent_pipelines_list"]

/-- Whether the backend knows the command of a request. -/
def isKnown (r : Request) : Bool :=
  commands.any (.plain · == r.command)

/-- A request as it travels. -/
def payload (r : Request) : Value :=
  if r.command ∈ bareCommands then r.body else .object [("req", r.body)]

/-- The answer to a request that the backend does not know. -/
def unsupported (r : Request) : Outcome :=
  .failure { code := .unsupported, message := "Unknown command: " ++ r.command }

end Request

end CaptureDesk
