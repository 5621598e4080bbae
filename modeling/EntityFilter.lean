import EntityFilter.Main
import EntityFilter.Proofs.Emission
import EntityFilter.Proofs.Append
import EntityFilter.Proofs.Marker
import EntityFilter.Proofs.History
import EntityFilter.Proofs.Session
import EntityFilter.Proofs.Sql.Formula
import EntityFilter.Proofs.Sql.Lexer
import EntityFilter.Proofs.Template
import EntityFilter.Proofs.Sql.Reader
import EntityFilter.Proofs.Sql.Atoms
import EntityFilter.Proofs.Meaning
import EntityFilter.Proofs.Query
import EntityFilter.Proofs.Finish
import EntityFilter.Proofs.LikePattern
import EntityFilter.Proofs.Outline
import EntityFilter.Proofs.Conditions
import EntityFilter.Proofs.Kinds
import EntityFilter.Proofs.PatternSets
import EntityFilter.Proofs.Typing
import EntityFilter.Proofs.Agreement
import EntityFilter.Proofs.Script
import EntityFilter.Proofs.Identifier
import EntityFilter.Proofs.Merge
import EntityFilter.Proofs.Once
import EntityFilter.Proofs.Json.Order
import EntityFilter.Proofs.KeyOrder
import EntityFilter.Proofs.Support
import EntityFilter.Proofs.ReadBack
import EntityFilter.Proofs.Decimal
import EntityFilter.Proofs.Allocation
import EntityFilter.Proofs.Settings
import EntityFilter.Proofs.Precedence
import EntityFilter.Proofs.SearchSet
