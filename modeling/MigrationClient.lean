import MigrationClient.Client.Session
import MigrationClient.CommandLine.Printer
import MigrationClient.Config.Encoding
import MigrationClient.Main
import MigrationClient.Proofs.Client.Addressing
import MigrationClient.Proofs.Client.ExitCode
import MigrationClient.Proofs.Client.Session
import MigrationClient.Proofs.CommandLine.Given
import MigrationClient.Proofs.Config.History
import MigrationClient.Proofs.Client.SingleRequest
import MigrationClient.Proofs.Config.Precedence
import MigrationClient.Proofs.Text.Utf8
import MigrationClient.Proofs.Domain.Trailing
import MigrationClient.Proofs.Url.Extending
import MigrationClient.Proofs.Client.Endpoint
import MigrationClient.Proofs.CommandLine.Operands
import MigrationClient.Proofs.Client.Agreement
import MigrationClient.Proofs.CommandLine.Written
import MigrationClient.Proofs.CommandLine.Help
import MigrationClient.Proofs.Course
import MigrationClient.Proofs.Config.Encoding
import MigrationClient.Proofs.Config.Placeholder
import MigrationClient.Proofs.Config.Sections
import MigrationClient.Proofs.Config.Written
import MigrationClient.Proofs.Client.Identifier
import MigrationClient.Proofs.Http.Chain
import MigrationClient.Proofs.Client.Redirects
import MigrationClient.Proofs.Client.Logging
import MigrationClient.Proofs.Config.Refilling
import MigrationClient.Proofs.Config.Parts
import MigrationClient.Proofs.Http.Rendering
