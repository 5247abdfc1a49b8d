import KeyPlan.Action.Json
import KeyPlan.Application.Listing
import KeyPlan.Folder
import KeyPlan.History
import KeyPlan.Main
import KeyPlan.Scripting
import KeyPlan.Proofs.Activation
import KeyPlan.Proofs.Steps
import KeyPlan.Proofs.Course
import KeyPlan.Proofs.Unnoticed
import KeyPlan.Proofs.Confirmation
import KeyPlan.Proofs.Callbacks
import KeyPlan.Proofs.KeyStream
import KeyPlan.Proofs.Calm
import KeyPlan.Proofs.Cancellation
import KeyPlan.Proofs.Operations
import KeyPlan.Proofs.Precancelled
import KeyPlan.Proofs.Histories
import KeyPlan.Proofs.Interleaving
import KeyPlan.Proofs.Failures
import KeyPlan.Proofs.Timing
import KeyPlan.Proofs.Unlogged
import KeyPlan.Proofs.Restore
import KeyPlan.Proofs.JsonText
import KeyPlan.Proofs.Removal
import KeyPlan.Proofs.PlanText
import KeyPlan.Proofs.JsonContent
import KeyPlan.Proofs.ActionText
import KeyPlan.Proofs.Polling
import KeyPlan.Proofs.Patience
import KeyPlan.Proofs.Readiness
import KeyPlan.Proofs.BestEffort
import KeyPlan.Proofs.Trimming
import KeyPlan.Proofs.InstructionForms
import KeyPlan.Proofs.Parts
import KeyPlan.Proofs.GlyphPlaces
import KeyPlan.Proofs.Spellings
import KeyPlan.Proofs.ShortcutForms
import KeyPlan.Proofs.ReadActions
import KeyPlan.Proofs.ShortcutLabels
import KeyPlan.Proofs.Resolution
import KeyPlan.Proofs.LiteralNames
import KeyPlan.Proofs.SameTargets
import KeyPlan.Proofs.Utf8
import KeyPlan.Proofs.Lines
import KeyPlan.Proofs.Script
import KeyPlan.Proofs.Queue
import KeyPlan.Proofs.SettingsText
import KeyPlan.Proofs.SavedSettings
import KeyPlan.Proofs.Prose
import KeyPlan.Proofs.AddedSteps
import KeyPlan.Proofs.Listings
import KeyPlan.Proofs.JsonForm
import KeyPlan.Proofs.JsonObject
import KeyPlan.Proofs.GivenSettings
import KeyPlan.Proofs.ModifierSets
import KeyPlan.Proofs.Overrides
import KeyPlan.Proofs.TextLabels
import KeyPlan.Proofs.KeyCodes
