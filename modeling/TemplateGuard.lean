import TemplateGuard.Format.Document
import TemplateGuard.Main
import TemplateGuard.Proofs.Masking.RoundTrip
import TemplateGuard.Proofs.Saving
import TemplateGuard.Proofs.Wrapping.LexicalStructure
import TemplateGuard.Proofs.Lexical.Queries
import TemplateGuard.Proofs.Wrapping.Idempotence
import TemplateGuard.Proofs.Masking.Simultaneous
import TemplateGuard.Proofs.Masking.Nesting
import TemplateGuard.Proofs.Masking.Answers
import TemplateGuard.Proofs.Masking.Apart
import TemplateGuard.Proofs.Formatting
import TemplateGuard.Proofs.Lexical.Regular
import TemplateGuard.Proofs.Lexical.Balanced
import TemplateGuard.Proofs.Lexical.Lookahead
import TemplateGuard.Proofs.Session.History
import TemplateGuard.Proofs.Session.Overlap
import TemplateGuard.Proofs.Masking.Agreement
import TemplateGuard.Proofs.Masking.Conservation
import TemplateGuard.Proofs.Tag.Search
import TemplateGuard.Proofs.Wrapping.Unwrapping
import TemplateGuard.Proofs.Lexical.Opacity
import TemplateGuard.Proofs.Wrapping.LeftToRight
import TemplateGuard.Proofs.Session.QuickTest
import TemplateGuard.Proofs.RestoreCommand
import TemplateGuard.Proofs.CommandCache
import TemplateGuard.Proofs.ConfigSpelling
