import JetVault.Library.Fallible
import JetVault.Library.Transition
import JetVault.Library.Simulation
import JetVault.Library.FixedWidth
import JetVault.Library.ProRata
import JetVault.Library.Totals
import JetVault.Library.PrefixCode
import JetVault.Library.Codec
import JetVault.Library.Layout
import JetVault.Library.Dispatch
import JetVault.Library.SlidingRate
import JetVault.Library.Scan
import JetVault.Library.BinarySearch
import JetVault.Vault.State
import JetVault.Vault.Token
import JetVault.Vault.Jet
import JetVault.Vault.Phase
import JetVault.Vault.Pricing
import JetVault.Vault.Handlers
import JetVault.Vault.Moves
import JetVault.Vault.Run
import JetVault.Properties.Conservation
import JetVault.Properties.Solvency
import JetVault.Properties.Liquidity
import JetVault.Properties.Dilution
import JetVault.Properties.Exit
import JetVault.Properties.Amounts
import JetVault.Properties.Splitting
import JetVault.Properties.NotePrices
import JetVault.Accounts.Context
import JetVault.Accounts.Seeds
import JetVault.Accounts.Initialize
import JetVault.Accounts.Deposit
import JetVault.Accounts.Withdraw
import JetVault.Properties.PinnedAccounts
import JetVault.Accounts.Handlers
import JetVault.Accounts.Site
import JetVault.Accounts.Simulation
import JetVault.Accounts.Lifecycle
import JetVault.Accounts.Confinement
import JetVault.Accounts.HostedJet
import JetVault.Properties.LedgerRuns
import JetVault.Properties.LedgerSafety
import JetVault.Properties.Isolation
import JetVault.Properties.Window
import JetVault.Properties.SeedCollisions
import JetVault.Properties.Addresses
import JetVault.Wire.Records
import JetVault.Wire.VaultProgram
import JetVault.Zeta.State
import JetVault.Zeta.Constants
import JetVault.Zeta.Margin
import JetVault.Zeta.ExactMargin
import JetVault.Zeta.Oracle
import JetVault.Zeta.Pyth
import JetVault.Zeta.Positions
import JetVault.Zeta.Group
import JetVault.Zeta.Orders
import JetVault.Zeta.Records
import JetVault.Zeta.Report
import JetVault.Properties.MarginCheck
import JetVault.Properties.MarginOrder
import JetVault.Properties.MarginRisk
import JetVault.Properties.OraclePrice
import JetVault.Properties.MarginDefined
import JetVault.Properties.Pnl
import JetVault.Vault.Market
import JetVault.Properties.Selection
import JetVault.Properties.VaultFormat
import JetVault.Properties.Markets
import JetVault.Properties.Orders
import JetVault.Properties.ReportedMargin
import JetVault.Cpi.Interface
import JetVault.Cpi.ZetaClient
import JetVault.Cpi.Program
import JetVault.Properties.Interfaces
import JetVault.Properties.ZetaCalls
import JetVault.Properties.Fills
import JetVault.Properties.OracleAccounts
