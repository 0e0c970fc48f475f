import NovaPuraRouter.TextQuota

/-! Usage counts between the Claude and the OpenAI format. A billing annotation, whose own
counts are returned in place of the computed ones, is absent here. -/
namespace NovaPuraRouter.UsageExchange
open TextQuota

def normalizeCacheCreationSplit (totalTokens tokens5m tokens1h : Int) : Int × Int :=
  (tokens5m + max (totalTokens - tokens5m - tokens1h) 0,tokens1h)

def cacheCreationTokensForOpenAIUsage (usage : Counts) : Int :=
  let split := usage.claudeCacheCreation5mTokens + usage.claudeCacheCreation1hTokens
  if split = 0 ∨ split < usage.promptTokensDetails.cachedCreationTokens then usage.promptTokensDetails.cachedCreationTokens else split

def buildOpenAIStyleUsageFromClaudeUsage (usage : Counts) : Counts :=
  let split := normalizeCacheCreationSplit usage.promptTokensDetails.cachedCreationTokens usage.claudeCacheCreation5mTokens
    usage.claudeCacheCreation1hTokens
  let created := cacheCreationTokensForOpenAIUsage usage
  let total := usage.promptTokens + usage.promptTokensDetails.cachedTokens + created
  { usage with
    claudeCacheCreation5mTokens := split.1, claudeCacheCreation1hTokens := split.2
    promptTokensDetails := { usage.promptTokensDetails with cacheWriteTokens := created }
    promptTokens := total, inputTokens := total, totalTokens := total + usage.completionTokens
    usageSemantic := "openai", usageSource := "anthropic" }

def buildClaudeUsageFromOpenAIUsage (usage : Counts) : ClaudeUsage :=
  let details := usage.promptTokensDetails
  let split := normalizeCacheCreationSplit details.cachedCreationTokens usage.claudeCacheCreation5mTokens usage.claudeCacheCreation1hTokens
  let created := details.cacheCreationTokensTotal
  -- Only a cache write shows that the prompt tokens contain the cached ones.
  ⟨if 0 < details.cacheWriteTokens then max (usage.promptTokens - details.cachedTokens - created) 0 else usage.promptTokens,
    created,details.cachedTokens,usage.completionTokens,if 0 < split.1 ∨ 0 < split.2 then some ⟨split.1,split.2⟩ else none,0,0⟩

variable (u : ClaudeUsage)

def getCacheCreation5mTokens : Int := (u.cacheCreation.map (·.ephemeral5mInputTokens)).getD 0

def getCacheCreation1hTokens : Int := (u.cacheCreation.map (·.ephemeral1hInputTokens)).getD 0

def usageFromClaudeAPIUsage : Counts := buildOpenAIStyleUsageFromClaudeUsage { Counts.zero with
  promptTokens := u.inputTokens, completionTokens := u.outputTokens, usageSemantic := "anthropic", usageSource := "anthropic"
  promptTokensDetails := ⟨u.cacheReadInputTokens,u.cacheCreationInputTokens,0,0,0,0⟩
  claudeCacheCreation5mTokens := getCacheCreation5mTokens u, claudeCacheCreation1hTokens := getCacheCreation1hTokens u }

def claudeTotal : Int := u.inputTokens + u.cacheReadInputTokens + u.cacheCreationInputTokens

def Survives : Prop :=
  let there := usageFromClaudeAPIUsage u
  let back := buildClaudeUsageFromOpenAIUsage there
  (back.inputTokens = u.inputTokens ∧ back.cacheReadInputTokens = u.cacheReadInputTokens ∧
    back.cacheCreationInputTokens = u.cacheCreationInputTokens ∧ back.outputTokens = u.outputTokens) ∧
  claudeTotal u = there.promptTokens ∧ claudeTotal back = there.promptTokens

theorem survivesIff : Survives u ↔
    (0 < u.cacheCreationInputTokens ∧ 0 ≤ u.inputTokens ∨ u.cacheCreationInputTokens = 0 ∧ u.cacheReadInputTokens = 0) ∧
      (getCacheCreation5mTokens u + getCacheCreation1hTokens u = 0 ∨
        getCacheCreation5mTokens u + getCacheCreation1hTokens u ≤ u.cacheCreationInputTokens) := by
  simp only [Survives,claudeTotal,usageFromClaudeAPIUsage,buildOpenAIStyleUsageFromClaudeUsage,buildClaudeUsageFromOpenAIUsage,
    cacheCreationTokensForOpenAIUsage,InputTokenDetails.cacheCreationTokensTotal]
  generalize getCacheCreation5mTokens u + getCacheCreation1hTokens u = split
  grind

theorem cachedReadCounted : ¬ Survives ⟨10,0,5,7,none,0,0⟩ := by
  intro survives
  exact absurd survives.1.1 (by decide)

end NovaPuraRouter.UsageExchange
