import SqlTemplate.CommandLine.Arguments
import SqlTemplate.CommandLine.FileError
import SqlTemplate.CommandLine.Job
import SqlTemplate.CommandLine.Run
import SqlTemplate.Condition.Eval
import SqlTemplate.Condition.Expr
import SqlTemplate.Condition.Lexer
import SqlTemplate.Condition.Parser
import SqlTemplate.Condition.Stream
import SqlTemplate.Condition.Token
import SqlTemplate.Json.Basic
import SqlTemplate.Json.Numeral
import SqlTemplate.Json.Reader
import SqlTemplate.Json.Settings
import SqlTemplate.Json.Value
import SqlTemplate.Json.Writer
import SqlTemplate.Main
import SqlTemplate.Manual.Pages
import SqlTemplate.Manual.Topic
import SqlTemplate.Number.Binary64
import SqlTemplate.Number.Decimal
import SqlTemplate.Number.FloatDecimal
import SqlTemplate.Number.FloatText
import SqlTemplate.Number.Positional
import SqlTemplate.Number.Shortest
import SqlTemplate.Path
import SqlTemplate.Proofs.BlockGrammar
import SqlTemplate.Proofs.BlockReading
import SqlTemplate.Proofs.ClosedSql
import SqlTemplate.Proofs.ConnectorText
import SqlTemplate.Proofs.EmbeddedText
import SqlTemplate.Proofs.Item
import SqlTemplate.Proofs.LexemeSteps
import SqlTemplate.Proofs.LikeOption
import SqlTemplate.Proofs.LikeSearch
import SqlTemplate.Proofs.MatchedItems
import SqlTemplate.Proofs.OptionalPart
import SqlTemplate.Proofs.Output
import SqlTemplate.Proofs.Piece
import SqlTemplate.Proofs.PlaceholderCount
import SqlTemplate.Proofs.RenderedItems
import SqlTemplate.Proofs.SoundItems
import SqlTemplate.Proofs.SoundOutput
import SqlTemplate.Proofs.Stretch
import SqlTemplate.Proofs.Success
import SqlTemplate.Proofs.TemplateGrammar
import SqlTemplate.Proofs.TemplateSource
import SqlTemplate.Proofs.TemplateTexts
import SqlTemplate.Proofs.TestValueText
import SqlTemplate.Proofs.ValidSettings
import SqlTemplate.Proofs.VariableOutput
import SqlTemplate.Render.Connector
import SqlTemplate.Render.Draft
import SqlTemplate.Render.Error
import SqlTemplate.Render.Filling
import SqlTemplate.Render.Like
import SqlTemplate.Render.Tree
import SqlTemplate.Scope
import SqlTemplate.Settings
import SqlTemplate.Sql.Literal
import SqlTemplate.Sql.Statement
import SqlTemplate.Sql.Zone
import SqlTemplate.Template.Error
import SqlTemplate.Template.Lexeme
import SqlTemplate.Template.Marker
import SqlTemplate.Template.Node
import SqlTemplate.Template.Options
import SqlTemplate.Template.Outline
import SqlTemplate.Template.TestValue
import SqlTemplate.Template.Verbatim
import SqlTemplate.Text.Alphabetic
import SqlTemplate.Text.Blank
import SqlTemplate.Text.Lowercase
import SqlTemplate.Text.Numeric
import SqlTemplate.Text.Pieces
import SqlTemplate.Text.Position
import SqlTemplate.Text.Printable
import SqlTemplate.Text.Quoted
import SqlTemplate.Text.Ranges
import SqlTemplate.Text.Uppercase
import SqlTemplate.Text.WordCharacter
import SqlTemplate.Value.Basic
import SqlTemplate.Value.Entries
import SqlTemplate.Value.Type
import SqlTemplate.Proofs.EmbeddedList
import SqlTemplate.Proofs.Failure
import SqlTemplate.Proofs.NamesInScope
import SqlTemplate.Proofs.LoopsAround
import SqlTemplate.Proofs.ConditionGrammar
import SqlTemplate.Proofs.ConditionReading
import SqlTemplate.Proofs.ConditionPath
import SqlTemplate.Proofs.SortedEntries
import SqlTemplate.Proofs.UnmentionedEntries
import SqlTemplate.Proofs.ProperTree
import SqlTemplate.Proofs.ShortDecimal
import SqlTemplate.Proofs.JsonGrammar
import SqlTemplate.Proofs.NumericComparison
import SqlTemplate.Proofs.JsonReading
import SqlTemplate.Proofs.JsonPrinted
import SqlTemplate.Proofs.JsonNumbers
import SqlTemplate.Proofs.StatementJson
import SqlTemplate.Proofs.EmbedGuard
import SqlTemplate.Proofs.PathOrigin
import SqlTemplate.Proofs.PathNavigation
import SqlTemplate.Proofs.TestValueGrammar
import SqlTemplate.Proofs.Lookahead
import SqlTemplate.Proofs.UntestedTree
import SqlTemplate.Proofs.SqlTokens
import SqlTemplate.Proofs.KeywordMarkers
import SqlTemplate.Proofs.LoopText
import SqlTemplate.Proofs.QuoteParity
import SqlTemplate.Proofs.TestValueQuotes
import SqlTemplate.Proofs.StepFrame
import SqlTemplate.Proofs.LoopStack
import SqlTemplate.Proofs.LeadingConnector
import SqlTemplate.Proofs.PlaceholderScan
import SqlTemplate.Proofs.DisplayedSql
import SqlTemplate.Proofs.InlinedValues
import SqlTemplate.Proofs.ComparisonOrder
import SqlTemplate.Proofs.LoopTurns
import SqlTemplate.Proofs.BindOrigin
import SqlTemplate.Proofs.FaultPlace
import SqlTemplate.Proofs.ElseSpelling
import SqlTemplate.Proofs.ConditionLiterals
import SqlTemplate.Proofs.CursorProgress
import SqlTemplate.Proofs.JsonLayouts
import SqlTemplate.Proofs.OptionList
