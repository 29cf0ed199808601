import PromptRules.Directive.Record
import PromptRules.Main
import PromptRules.Proofs.Directive.Cutting
import PromptRules.Proofs.Directive.LongNumbers
import PromptRules.Proofs.Issue.Completeness
import PromptRules.Proofs.Memo.Newest
import PromptRules.Proofs.PresetFile.Frame
import PromptRules.Proofs.PresetFile.LoadFaults
import PromptRules.Proofs.PresetFile.Traces
import PromptRules.Proofs.Prompt.ExactIssues
import PromptRules.Proofs.Prompt.IssueOrder
import PromptRules.Proofs.Prompt.MutualConflicts
import PromptRules.Proofs.Prompt.OwnToggles
import PromptRules.Proofs.Prompt.Unseen
import PromptRules.Proofs.Session.Aims
import PromptRules.Proofs.Session.Clearing
import PromptRules.Proofs.Session.DecisionTable
import PromptRules.Proofs.Session.Exclusion
import PromptRules.Proofs.Session.JournalReplay
import PromptRules.Proofs.Session.Resolution
import PromptRules.Proofs.Overview.Gathering
import PromptRules.Proofs.Overview.TagRanking
import PromptRules.Proofs.Overview.GroupIndex
import PromptRules.Proofs.Command.Sessions
import PromptRules.Proofs.Session.Preview
import PromptRules.Proofs.PresetFile.States
import PromptRules.Proofs.Command.Switching
import PromptRules.Proofs.Command.TriggerPreview
import PromptRules.Proofs.Directive.WholeTokens
import PromptRules.Proofs.Directive.ReadBack
import PromptRules.Proofs.Journal.Shortening
