import AgentRank.Auth.Grammar
import AgentRank.Auth.Revocation
import AgentRank.Benchmark.Accounting
import AgentRank.Benchmark.CatalogPin
import AgentRank.Benchmark.DiscoveryBoundary
import AgentRank.Benchmark.ExperimentPairs
import AgentRank.Benchmark.LaunchConcurrency
import AgentRank.Benchmark.LaunchRuns
import AgentRank.Benchmark.LlmReports
import AgentRank.Benchmark.Mutation
import AgentRank.Benchmark.ReportText
import AgentRank.Benchmark.Spending
import AgentRank.Benchmark.SuiteRows
import AgentRank.Benchmark.WireProtocol
import AgentRank.Benchmark.Witnesses
import AgentRank.Checkout.AcceptedRequests
import AgentRank.Compiler.AddressGrammars
import AgentRank.Compiler.Published
import AgentRank.Diagnostics.Conservation
import AgentRank.Diagnostics.PairAgreement
import AgentRank.Diagnostics.Parity
import AgentRank.Diagnostics.ProviderFacts
import AgentRank.Importer.ConfirmedOnce
import AgentRank.Importer.ExactAmounts
import AgentRank.Importer.PageBounds
import AgentRank.Importer.PageOrder
import AgentRank.Limits.RequestBody
import AgentRank.Payments.Capacity
import AgentRank.Payments.OneOutcome
import AgentRank.Workspace.Generation
