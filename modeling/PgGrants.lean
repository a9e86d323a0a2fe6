import PgGrants.Environment
import PgGrants.Lock.Schedule
import PgGrants.Payload.Statement
import PgGrants.Privilege.Given
import PgGrants.Proofs.AdminOptions
import PgGrants.Proofs.CircularMemberships
import PgGrants.Proofs.ClientLife
import PgGrants.Proofs.DeclaredBack
import PgGrants.Proofs.DriftReport
import PgGrants.Proofs.FixedPoints
import PgGrants.Proofs.HeldByKey
import PgGrants.Proofs.Identification
import PgGrants.Proofs.ItemRoundTrip
import PgGrants.Proofs.LockUse
import PgGrants.Proofs.ManagedRoles
import PgGrants.Proofs.MissingTargets
import PgGrants.Proofs.OwnerOrder
import PgGrants.Proofs.PolicyPartition
import PgGrants.Proofs.PublicSpellings
import PgGrants.Proofs.Restoring
import PgGrants.Proofs.SchemaConverges
import PgGrants.Proofs.SkipExactly
import PgGrants.Proofs.StatementText
import PgGrants.Proofs.VersionGates
import PgGrants.Proofs.VersionText
import PgGrants.Proofs.WritablePlans
