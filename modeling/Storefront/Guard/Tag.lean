/-!
The tags of conditions: each names one fact about the game's world, the player or the moment. Tags
have names and numeric codes. Some tags come in pairs of which exactly one holds at a time; the
codes of such a pair are each other's bitwise complement.
-/

namespace Storefront.Guard

/-- A fact that an item's sale can depend on. -/
inductive Tag where
  | nearWater | nearLava | nearHoney | nearShimmer | timeDay | timeNight | inDungeon | inCorrupt
  | inHallow | inMeteor | inJungle | inSnow | inCrimson | inWaterCandle | inPeaceCandle
  | inTowerSolar | inTowerVortex | inTowerNebula | inTowerStardust | inDesert | inGlowshroom
  | inUndergroundDesert | inSkyHeight | inOverworldHeight | inDirtLayerHeight | inRockLayerHeight
  | inUnderworldHeight | inBeach | inRain | inSandstorm | inOldOnesArmy | inGranite | inMarble
  | inHive | inGemCave | inLihzhardTemple | inGraveyard | inAether | inShoppingZoneForest
  | inBelowSurface | inEvilBiome | notInEvilBiome | notInHallowBiome | notInGraveyard
  | notInUnderworld | inClassicMode | inExpertMode | inMasterMode | inJourneyMode | hardmode
  | preHardmode | smashedShadowOrb | crimsonWorld | corruptWorld | drunkWorld | remixWorld
  | notTheBeesWorld | forTheWorthyWorld | tenthAnniversaryWorld | dontStarveWorld | noTrapsWorld
  | zenithWorld | notDrunkWorld | notRemixWorld | notNotTheBeesWorld | notForTheWorthyWorld
  | notTenthAnniversaryWorld | notDontStarveWorld | notNoTrapsWorld | notZenithWorld | christmas
  | halloween | bloodMoon | notBloodMoon | eclipse | notEclipse | eclipseOrBloodMoon
  | notEclipseAndNotBloodMoon | thunderstorm | birthdayParty | lanternNight | happyWindyDay
  | downedKingSlime | downedEyeOfCthulhu | downedEowOrBoc | downedEaterOfWorlds
  | downedBrainOfCthulhu | downedQueenBee | downedDeerclops | downedSkeletron | downedQueenSlime
  | downedEarlygameBoss | downedMechBossAny | downedTwins | downedDestroyer
  | downedSkeletronPrime | downedMechBossAll | downedPlantera | downedEmpressOfLight
  | downedDukeFishron | downedGolem | downedMourningWood | downedPumpking | downedEverscream
  | downedSantaNK1 | downedIceQueen | downedCultist | downedMoonLord | downedClown
  | downedGoblinArmy | downedPirates | downedMartians | downedFrostLegion | downedSolarPillar
  | downedVortexPillar | downedNebulaPillar | downedStardustPillar | downedOldOnesArmyAny
  | downedOldOnesArmyT1 | downedOldOnesArmyT2 | downedOldOnesArmyT3 | notDownedKingSlime
  | notDownedEyeOfCthulhu | notDownedEowOrBoc | notDownedEaterOfWorlds | notDownedBrainOfCthulhu
  | notDownedQueenBee | notDownedDeerclops | notDownedSkeletron | notDownedQueenSlime
  | notDownedEarlygameBoss | notDownedMechBossAny | notDownedTwins | notDownedDestroyer
  | notDownedSkeletronPrime | notDownedMechBossAll | notDownedPlantera | notDownedEmpressOfLight
  | notDownedDukeFishron | notDownedGolem | notDownedMourningWood | notDownedPumpking
  | notDownedEverscream | notDownedSantaNK1 | notDownedIceQueen | notDownedCultist
  | notDownedMoonLord | notDownedClown | notDownedGoblinArmy | notDownedPirates
  | notDownedMartians | notDownedFrostLegion | notDownedSolarPillar | notDownedVortexPillar
  | notDownedNebulaPillar | notDownedStardustPillar | notDownedOldOnesArmyAny
  | notDownedOldOnesArmyT1 | notDownedOldOnesArmyT2 | notDownedOldOnesArmyT3
  | bloodMoonOrHardmode | nightOrEclipse | multiplayer | happyEnough | happyEnoughToSellPylons
  | anotherTownNPCNearby | isNpcShimmered | moonPhaseFull | moonPhaseWaningGibbous
  | moonPhaseThirdQuarter | moonPhaseWaningCrescent | moonPhaseNew | moonPhaseWaxingCrescent
  | moonPhaseFirstQuarter | moonPhaseWaxingGibbous | moonPhasesQuarter0 | moonPhasesQuarter1
  | moonPhasesQuarter2 | moonPhasesQuarter3 | moonPhasesHalf0 | moonPhasesHalf1 | moonPhasesEven
  | moonPhasesOdd | moonPhasesNearNew | moonPhasesEvenQuarters | moonPhasesOddQuarters
  | moonPhases04 | moonPhases15 | moonPhases26 | moonPhases37 | downedB2B3HM | worldGenSilver
  | worldGenTungsten | nightAfterEvilOrHardmode | moonPhasesHalf0OrPreHardmode | hardmodeOrFTW
  | inBeach2 | atLeastXHealth | atLeastXMana | platinumCoin | styleMoon | onTeam
  | nightDayFullMoon | daytimeNotFullMoon | noAteLoaf | periodically1 | periodically2
  | bestiaryFull | playerCarriesItem | golfScoreOver | npcIsPresent | anglerQuestsFinishedOver
  | bestiaryFilledPercent | moonPhasesHalf1AndHardmode
  deriving DecidableEq

namespace Tag

/-- Every tag, in the order of the table. -/
def all : List Tag := [
  nearWater, nearLava, nearHoney, nearShimmer, timeDay, timeNight, inDungeon, inCorrupt,
  inHallow, inMeteor, inJungle, inSnow, inCrimson, inWaterCandle, inPeaceCandle, inTowerSolar,
  inTowerVortex, inTowerNebula, inTowerStardust, inDesert, inGlowshroom, inUndergroundDesert,
  inSkyHeight, inOverworldHeight, inDirtLayerHeight, inRockLayerHeight, inUnderworldHeight,
  inBeach, inRain, inSandstorm, inOldOnesArmy, inGranite, inMarble, inHive, inGemCave,
  inLihzhardTemple, inGraveyard, inAether, inShoppingZoneForest, inBelowSurface, inEvilBiome,
  notInEvilBiome, notInHallowBiome, notInGraveyard, notInUnderworld, inClassicMode, inExpertMode,
  inMasterMode, inJourneyMode, hardmode, preHardmode, smashedShadowOrb, crimsonWorld,
  corruptWorld, drunkWorld, remixWorld, notTheBeesWorld, forTheWorthyWorld,
  tenthAnniversaryWorld, dontStarveWorld, noTrapsWorld, zenithWorld, notDrunkWorld,
  notRemixWorld, notNotTheBeesWorld, notForTheWorthyWorld, notTenthAnniversaryWorld,
  notDontStarveWorld, notNoTrapsWorld, notZenithWorld, christmas, halloween, bloodMoon,
  notBloodMoon, eclipse, notEclipse, eclipseOrBloodMoon, notEclipseAndNotBloodMoon, thunderstorm,
  birthdayParty, lanternNight, happyWindyDay, downedKingSlime, downedEyeOfCthulhu,
  downedEowOrBoc, downedEaterOfWorlds, downedBrainOfCthulhu, downedQueenBee, downedDeerclops,
  downedSkeletron, downedQueenSlime, downedEarlygameBoss, downedMechBossAny, downedTwins,
  downedDestroyer, downedSkeletronPrime, downedMechBossAll, downedPlantera, downedEmpressOfLight,
  downedDukeFishron, downedGolem, downedMourningWood, downedPumpking, downedEverscream,
  downedSantaNK1, downedIceQueen, downedCultist, downedMoonLord, downedClown, downedGoblinArmy,
  downedPirates, downedMartians, downedFrostLegion, downedSolarPillar, downedVortexPillar,
  downedNebulaPillar, downedStardustPillar, downedOldOnesArmyAny, downedOldOnesArmyT1,
  downedOldOnesArmyT2, downedOldOnesArmyT3, notDownedKingSlime, notDownedEyeOfCthulhu,
  notDownedEowOrBoc, notDownedEaterOfWorlds, notDownedBrainOfCthulhu, notDownedQueenBee,
  notDownedDeerclops, notDownedSkeletron, notDownedQueenSlime, notDownedEarlygameBoss,
  notDownedMechBossAny, notDownedTwins, notDownedDestroyer, notDownedSkeletronPrime,
  notDownedMechBossAll, notDownedPlantera, notDownedEmpressOfLight, notDownedDukeFishron,
  notDownedGolem, notDownedMourningWood, notDownedPumpking, notDownedEverscream,
  notDownedSantaNK1, notDownedIceQueen, notDownedCultist, notDownedMoonLord, notDownedClown,
  notDownedGoblinArmy, notDownedPirates, notDownedMartians, notDownedFrostLegion,
  notDownedSolarPillar, notDownedVortexPillar, notDownedNebulaPillar, notDownedStardustPillar,
  notDownedOldOnesArmyAny, notDownedOldOnesArmyT1, notDownedOldOnesArmyT2,
  notDownedOldOnesArmyT3, bloodMoonOrHardmode, nightOrEclipse, multiplayer, happyEnough,
  happyEnoughToSellPylons, anotherTownNPCNearby, isNpcShimmered, moonPhaseFull,
  moonPhaseWaningGibbous, moonPhaseThirdQuarter, moonPhaseWaningCrescent, moonPhaseNew,
  moonPhaseWaxingCrescent, moonPhaseFirstQuarter, moonPhaseWaxingGibbous, moonPhasesQuarter0,
  moonPhasesQuarter1, moonPhasesQuarter2, moonPhasesQuarter3, moonPhasesHalf0, moonPhasesHalf1,
  moonPhasesEven, moonPhasesOdd, moonPhasesNearNew, moonPhasesEvenQuarters,
  moonPhasesOddQuarters, moonPhases04, moonPhases15, moonPhases26, moonPhases37, downedB2B3HM,
  worldGenSilver, worldGenTungsten, nightAfterEvilOrHardmode, moonPhasesHalf0OrPreHardmode,
  hardmodeOrFTW, inBeach2, atLeastXHealth, atLeastXMana, platinumCoin, styleMoon, onTeam,
  nightDayFullMoon, daytimeNotFullMoon, noAteLoaf, periodically1, periodically2, bestiaryFull,
  playerCarriesItem, golfScoreOver, npcIsPresent, anglerQuestsFinishedOver,
  bestiaryFilledPercent, moonPhasesHalf1AndHardmode]

/-- The name of a tag. -/
def name : Tag → String
  | nearWater => "NearWater"
  | nearLava => "NearLava"
  | nearHoney => "NearHoney"
  | nearShimmer => "NearShimmer"
  | timeDay => "TimeDay"
  | timeNight => "TimeNight"
  | inDungeon => "InDungeon"
  | inCorrupt => "InCorrupt"
  | inHallow => "InHallow"
  | inMeteor => "InMeteor"
  | inJungle => "InJungle"
  | inSnow => "InSnow"
  | inCrimson => "InCrimson"
  | inWaterCandle => "InWaterCandle"
  | inPeaceCandle => "InPeaceCandle"
  | inTowerSolar => "InTowerSolar"
  | inTowerVortex => "InTowerVortex"
  | inTowerNebula => "InTowerNebula"
  | inTowerStardust => "InTowerStardust"
  | inDesert => "InDesert"
  | inGlowshroom => "InGlowshroom"
  | inUndergroundDesert => "InUndergroundDesert"
  | inSkyHeight => "InSkyHeight"
  | inOverworldHeight => "InOverworldHeight"
  | inDirtLayerHeight => "InDirtLayerHeight"
  | inRockLayerHeight => "InRockLayerHeight"
  | inUnderworldHeight => "InUnderworldHeight"
  | inBeach => "InBeach"
  | inRain => "InRain"
  | inSandstorm => "InSandstorm"
  | inOldOnesArmy => "InOldOnesArmy"
  | inGranite => "InGranite"
  | inMarble => "InMarble"
  | inHive => "InHive"
  | inGemCave => "InGemCave"
  | inLihzhardTemple => "InLihzhardTemple"
  | inGraveyard => "InGraveyard"
  | inAether => "InAether"
  | inShoppingZoneForest => "InShoppingZoneForest"
  | inBelowSurface => "InBelowSurface"
  | inEvilBiome => "InEvilBiome"
  | notInEvilBiome => "NotInEvilBiome"
  | notInHallowBiome => "NotInHallowBiome"
  | notInGraveyard => "NotInGraveyard"
  | notInUnderworld => "NotInUnderworld"
  | inClassicMode => "InClassicMode"
  | inExpertMode => "InExpertMode"
  | inMasterMode => "InMasterMode"
  | inJourneyMode => "InJourneyMode"
  | hardmode => "Hardmode"
  | preHardmode => "PreHardmode"
  | smashedShadowOrb => "SmashedShadowOrb"
  | crimsonWorld => "CrimsonWorld"
  | corruptWorld => "CorruptWorld"
  | drunkWorld => "DrunkWorld"
  | remixWorld => "RemixWorld"
  | notTheBeesWorld => "NotTheBeesWorld"
  | forTheWorthyWorld => "ForTheWorthyWorld"
  | tenthAnniversaryWorld => "TenthAnniversaryWorld"
  | dontStarveWorld => "DontStarveWorld"
  | noTrapsWorld => "NoTrapsWorld"
  | zenithWorld => "ZenithWorld"
  | notDrunkWorld => "NotDrunkWorld"
  | notRemixWorld => "NotRemixWorld"
  | notNotTheBeesWorld => "NotNotTheBeesWorld"
  | notForTheWorthyWorld => "NotForTheWorthyWorld"
  | notTenthAnniversaryWorld => "NotTenthAnniversaryWorld"
  | notDontStarveWorld => "NotDontStarveWorld"
  | notNoTrapsWorld => "NotNoTrapsWorld"
  | notZenithWorld => "NotZenithWorld"
  | christmas => "Christmas"
  | halloween => "Halloween"
  | bloodMoon => "BloodMoon"
  | notBloodMoon => "NotBloodMoon"
  | eclipse => "Eclipse"
  | notEclipse => "NotEclipse"
  | eclipseOrBloodMoon => "EclipseOrBloodMoon"
  | notEclipseAndNotBloodMoon => "NotEclipseAndNotBloodMoon"
  | thunderstorm => "Thunderstorm"
  | birthdayParty => "BirthdayParty"
  | lanternNight => "LanternNight"
  | happyWindyDay => "HappyWindyDay"
  | downedKingSlime => "DownedKingSlime"
  | downedEyeOfCthulhu => "DownedEyeOfCthulhu"
  | downedEowOrBoc => "DownedEowOrBoc"
  | downedEaterOfWorlds => "DownedEaterOfWorlds"
  | downedBrainOfCthulhu => "DownedBrainOfCthulhu"
  | downedQueenBee => "DownedQueenBee"
  | downedDeerclops => "DownedDeerclops"
  | downedSkeletron => "DownedSkeletron"
  | downedQueenSlime => "DownedQueenSlime"
  | downedEarlygameBoss => "DownedEarlygameBoss"
  | downedMechBossAny => "DownedMechBossAny"
  | downedTwins => "DownedTwins"
  | downedDestroyer => "DownedDestroyer"
  | downedSkeletronPrime => "DownedSkeletronPrime"
  | downedMechBossAll => "DownedMechBossAll"
  | downedPlantera => "DownedPlantera"
  | downedEmpressOfLight => "DownedEmpressOfLight"
  | downedDukeFishron => "DownedDukeFishron"
  | downedGolem => "DownedGolem"
  | downedMourningWood => "DownedMourningWood"
  | downedPumpking => "DownedPumpking"
  | downedEverscream => "DownedEverscream"
  | downedSantaNK1 => "DownedSantaNK1"
  | downedIceQueen => "DownedIceQueen"
  | downedCultist => "DownedCultist"
  | downedMoonLord => "DownedMoonLord"
  | downedClown => "DownedClown"
  | downedGoblinArmy => "DownedGoblinArmy"
  | downedPirates => "DownedPirates"
  | downedMartians => "DownedMartians"
  | downedFrostLegion => "DownedFrostLegion"
  | downedSolarPillar => "DownedSolarPillar"
  | downedVortexPillar => "DownedVortexPillar"
  | downedNebulaPillar => "DownedNebulaPillar"
  | downedStardustPillar => "DownedStardustPillar"
  | downedOldOnesArmyAny => "DownedOldOnesArmyAny"
  | downedOldOnesArmyT1 => "DownedOldOnesArmyT1"
  | downedOldOnesArmyT2 => "DownedOldOnesArmyT2"
  | downedOldOnesArmyT3 => "DownedOldOnesArmyT3"
  | notDownedKingSlime => "NotDownedKingSlime"
  | notDownedEyeOfCthulhu => "NotDownedEyeOfCthulhu"
  | notDownedEowOrBoc => "NotDownedEowOrBoc"
  | notDownedEaterOfWorlds => "NotDownedEaterOfWorlds"
  | notDownedBrainOfCthulhu => "NotDownedBrainOfCthulhu"
  | notDownedQueenBee => "NotDownedQueenBee"
  | notDownedDeerclops => "NotDownedDeerclops"
  | notDownedSkeletron => "NotDownedSkeletron"
  | notDownedQueenSlime => "NotDownedQueenSlime"
  | notDownedEarlygameBoss => "NotDownedEarlygameBoss"
  | notDownedMechBossAny => "NotDownedMechBossAny"
  | notDownedTwins => "NotDownedTwins"
  | notDownedDestroyer => "NotDownedDestroyer"
  | notDownedSkeletronPrime => "NotDownedSkeletronPrime"
  | notDownedMechBossAll => "NotDownedMechBossAll"
  | notDownedPlantera => "NotDownedPlantera"
  | notDownedEmpressOfLight => "NotDownedEmpressOfLight"
  | notDownedDukeFishron => "NotDownedDukeFishron"
  | notDownedGolem => "NotDownedGolem"
  | notDownedMourningWood => "NotDownedMourningWood"
  | notDownedPumpking => "NotDownedPumpking"
  | notDownedEverscream => "NotDownedEverscream"
  | notDownedSantaNK1 => "NotDownedSantaNK1"
  | notDownedIceQueen => "NotDownedIceQueen"
  | notDownedCultist => "NotDownedCultist"
  | notDownedMoonLord => "NotDownedMoonLord"
  | notDownedClown => "NotDownedClown"
  | notDownedGoblinArmy => "NotDownedGoblinArmy"
  | notDownedPirates => "NotDownedPirates"
  | notDownedMartians => "NotDownedMartians"
  | notDownedFrostLegion => "NotDownedFrostLegion"
  | notDownedSolarPillar => "NotDownedSolarPillar"
  | notDownedVortexPillar => "NotDownedVortexPillar"
  | notDownedNebulaPillar => "NotDownedNebulaPillar"
  | notDownedStardustPillar => "NotDownedStardustPillar"
  | notDownedOldOnesArmyAny => "NotDownedOldOnesArmyAny"
  | notDownedOldOnesArmyT1 => "NotDownedOldOnesArmyT1"
  | notDownedOldOnesArmyT2 => "NotDownedOldOnesArmyT2"
  | notDownedOldOnesArmyT3 => "NotDownedOldOnesArmyT3"
  | bloodMoonOrHardmode => "BloodMoonOrHardmode"
  | nightOrEclipse => "NightOrEclipse"
  | multiplayer => "Multiplayer"
  | happyEnough => "HappyEnough"
  | happyEnoughToSellPylons => "HappyEnoughToSellPylons"
  | anotherTownNPCNearby => "AnotherTownNPCNearby"
  | isNpcShimmered => "IsNpcShimmered"
  | moonPhaseFull => "MoonPhaseFull"
  | moonPhaseWaningGibbous => "MoonPhaseWaningGibbous"
  | moonPhaseThirdQuarter => "MoonPhaseThirdQuarter"
  | moonPhaseWaningCrescent => "MoonPhaseWaningCrescent"
  | moonPhaseNew => "MoonPhaseNew"
  | moonPhaseWaxingCrescent => "MoonPhaseWaxingCrescent"
  | moonPhaseFirstQuarter => "MoonPhaseFirstQuarter"
  | moonPhaseWaxingGibbous => "MoonPhaseWaxingGibbous"
  | moonPhasesQuarter0 => "MoonPhasesQuarter0"
  | moonPhasesQuarter1 => "MoonPhasesQuarter1"
  | moonPhasesQuarter2 => "MoonPhasesQuarter2"
  | moonPhasesQuarter3 => "MoonPhasesQuarter3"
  | moonPhasesHalf0 => "MoonPhasesHalf0"
  | moonPhasesHalf1 => "MoonPhasesHalf1"
  | moonPhasesEven => "MoonPhasesEven"
  | moonPhasesOdd => "MoonPhasesOdd"
  | moonPhasesNearNew => "MoonPhasesNearNew"
  | moonPhasesEvenQuarters => "MoonPhasesEvenQuarters"
  | moonPhasesOddQuarters => "MoonPhasesOddQuarters"
  | moonPhases04 => "MoonPhases04"
  | moonPhases15 => "MoonPhases15"
  | moonPhases26 => "MoonPhases26"
  | moonPhases37 => "MoonPhases37"
  | downedB2B3HM => "DownedB2B3HM"
  | worldGenSilver => "WorldGenSilver"
  | worldGenTungsten => "WorldGenTungsten"
  | nightAfterEvilOrHardmode => "NightAfterEvilOrHardmode"
  | moonPhasesHalf0OrPreHardmode => "MoonPhasesHalf0OrPreHardmode"
  | hardmodeOrFTW => "HardmodeOrFTW"
  | inBeach2 => "InBeach2"
  | atLeastXHealth => "AtLeastXHealth"
  | atLeastXMana => "AtLeastXMana"
  | platinumCoin => "PlatinumCoin"
  | styleMoon => "StyleMoon"
  | onTeam => "OnTeam"
  | nightDayFullMoon => "NightDayFullMoon"
  | daytimeNotFullMoon => "DaytimeNotFullMoon"
  | noAteLoaf => "NoAteLoaf"
  | periodically1 => "Periodically1"
  | periodically2 => "Periodically2"
  | bestiaryFull => "BestiaryFull"
  | playerCarriesItem => "PlayerCarriesItem"
  | golfScoreOver => "GolfScoreOver"
  | npcIsPresent => "NpcIsPresent"
  | anglerQuestsFinishedOver => "AnglerQuestsFinishedOver"
  | bestiaryFilledPercent => "BestiaryFilledPercent"
  | moonPhasesHalf1AndHardmode => "MoonPhasesHalf1AndHardmode"

/-- The numeric code of a tag. -/
def code : Tag → Int
  | nearWater => 0
  | nearLava => 1
  | nearHoney => 2
  | nearShimmer => 3
  | timeDay => 4
  | timeNight => -5
  | inDungeon => 5
  | inCorrupt => 6
  | inHallow => 7
  | inMeteor => 8
  | inJungle => 9
  | inSnow => 10
  | inCrimson => 11
  | inWaterCandle => 12
  | inPeaceCandle => 13
  | inTowerSolar => 14
  | inTowerVortex => 15
  | inTowerNebula => 16
  | inTowerStardust => 17
  | inDesert => 18
  | inGlowshroom => 19
  | inUndergroundDesert => 20
  | inSkyHeight => 21
  | inOverworldHeight => 22
  | inDirtLayerHeight => 23
  | inRockLayerHeight => 24
  | inUnderworldHeight => 25
  | inBeach => 26
  | inRain => 27
  | inSandstorm => 28
  | inOldOnesArmy => 29
  | inGranite => 30
  | inMarble => 31
  | inHive => 32
  | inGemCave => 33
  | inLihzhardTemple => 34
  | inGraveyard => 35
  | inAether => 36
  | inShoppingZoneForest => 37
  | inBelowSurface => 38
  | inEvilBiome => 39
  | notInEvilBiome => -40
  | notInHallowBiome => -8
  | notInGraveyard => -36
  | notInUnderworld => -26
  | inClassicMode => -41
  | inExpertMode => 40
  | inMasterMode => 41
  | inJourneyMode => 42
  | hardmode => 43
  | preHardmode => -44
  | smashedShadowOrb => 44
  | crimsonWorld => 45
  | corruptWorld => -46
  | drunkWorld => 46
  | remixWorld => 47
  | notTheBeesWorld => 48
  | forTheWorthyWorld => 49
  | tenthAnniversaryWorld => 50
  | dontStarveWorld => 51
  | noTrapsWorld => 52
  | zenithWorld => 53
  | notDrunkWorld => -47
  | notRemixWorld => -48
  | notNotTheBeesWorld => -49
  | notForTheWorthyWorld => -50
  | notTenthAnniversaryWorld => -51
  | notDontStarveWorld => -52
  | notNoTrapsWorld => -53
  | notZenithWorld => -54
  | christmas => 54
  | halloween => 55
  | bloodMoon => 56
  | notBloodMoon => -57
  | eclipse => 57
  | notEclipse => -58
  | eclipseOrBloodMoon => 58
  | notEclipseAndNotBloodMoon => -59
  | thunderstorm => 59
  | birthdayParty => 60
  | lanternNight => 61
  | happyWindyDay => 62
  | downedKingSlime => 63
  | downedEyeOfCthulhu => 64
  | downedEowOrBoc => 65
  | downedEaterOfWorlds => 66
  | downedBrainOfCthulhu => 67
  | downedQueenBee => 68
  | downedDeerclops => 69
  | downedSkeletron => 70
  | downedQueenSlime => 71
  | downedEarlygameBoss => 72
  | downedMechBossAny => 73
  | downedTwins => 74
  | downedDestroyer => 75
  | downedSkeletronPrime => 76
  | downedMechBossAll => 77
  | downedPlantera => 78
  | downedEmpressOfLight => 79
  | downedDukeFishron => 80
  | downedGolem => 81
  | downedMourningWood => 82
  | downedPumpking => 83
  | downedEverscream => 84
  | downedSantaNK1 => 85
  | downedIceQueen => 86
  | downedCultist => 87
  | downedMoonLord => 88
  | downedClown => 89
  | downedGoblinArmy => 90
  | downedPirates => 91
  | downedMartians => 92
  | downedFrostLegion => 93
  | downedSolarPillar => 94
  | downedVortexPillar => 95
  | downedNebulaPillar => 96
  | downedStardustPillar => 97
  | downedOldOnesArmyAny => 98
  | downedOldOnesArmyT1 => 99
  | downedOldOnesArmyT2 => 100
  | downedOldOnesArmyT3 => 101
  | notDownedKingSlime => -64
  | notDownedEyeOfCthulhu => -65
  | notDownedEowOrBoc => -66
  | notDownedEaterOfWorlds => -67
  | notDownedBrainOfCthulhu => -68
  | notDownedQueenBee => -69
  | notDownedDeerclops => -70
  | notDownedSkeletron => -71
  | notDownedQueenSlime => -72
  | notDownedEarlygameBoss => -73
  | notDownedMechBossAny => -74
  | notDownedTwins => -75
  | notDownedDestroyer => -76
  | notDownedSkeletronPrime => -77
  | notDownedMechBossAll => -78
  | notDownedPlantera => -79
  | notDownedEmpressOfLight => -80
  | notDownedDukeFishron => -81
  | notDownedGolem => -82
  | notDownedMourningWood => -83
  | notDownedPumpking => -84
  | notDownedEverscream => -85
  | notDownedSantaNK1 => -86
  | notDownedIceQueen => -87
  | notDownedCultist => -88
  | notDownedMoonLord => -89
  | notDownedClown => -90
  | notDownedGoblinArmy => -91
  | notDownedPirates => -92
  | notDownedMartians => -93
  | notDownedFrostLegion => -94
  | notDownedSolarPillar => -95
  | notDownedVortexPillar => -96
  | notDownedNebulaPillar => -97
  | notDownedStardustPillar => -98
  | notDownedOldOnesArmyAny => -99
  | notDownedOldOnesArmyT1 => -100
  | notDownedOldOnesArmyT2 => -101
  | notDownedOldOnesArmyT3 => -102
  | bloodMoonOrHardmode => 102
  | nightOrEclipse => 103
  | multiplayer => 104
  | happyEnough => 105
  | happyEnoughToSellPylons => 106
  | anotherTownNPCNearby => 107
  | isNpcShimmered => 108
  | moonPhaseFull => 109
  | moonPhaseWaningGibbous => 110
  | moonPhaseThirdQuarter => 111
  | moonPhaseWaningCrescent => 112
  | moonPhaseNew => 113
  | moonPhaseWaxingCrescent => 114
  | moonPhaseFirstQuarter => 115
  | moonPhaseWaxingGibbous => 116
  | moonPhasesQuarter0 => 117
  | moonPhasesQuarter1 => 118
  | moonPhasesQuarter2 => 119
  | moonPhasesQuarter3 => 120
  | moonPhasesHalf0 => 121
  | moonPhasesHalf1 => -122
  | moonPhasesEven => 122
  | moonPhasesOdd => -123
  | moonPhasesNearNew => 123
  | moonPhasesEvenQuarters => 124
  | moonPhasesOddQuarters => -125
  | moonPhases04 => 125
  | moonPhases15 => 126
  | moonPhases26 => 127
  | moonPhases37 => 128
  | downedB2B3HM => 129
  | worldGenSilver => 130
  | worldGenTungsten => -131
  | nightAfterEvilOrHardmode => 132
  | moonPhasesHalf0OrPreHardmode => 133
  | hardmodeOrFTW => 134
  | inBeach2 => 135
  | atLeastXHealth => 136
  | atLeastXMana => 137
  | platinumCoin => 138
  | styleMoon => 139
  | onTeam => 140
  | nightDayFullMoon => 141
  | daytimeNotFullMoon => -142
  | noAteLoaf => 142
  | periodically1 => 143
  | periodically2 => -144
  | bestiaryFull => 144
  | playerCarriesItem => 145
  | golfScoreOver => 146
  | npcIsPresent => 147
  | anglerQuestsFinishedOver => 148
  | bestiaryFilledPercent => 149
  | moonPhasesHalf1AndHardmode => 150

instance : Repr Tag := ⟨fun tag _ => tag.name⟩

/-- The tag of a name. -/
def ofName? (name : String) : Option Tag := all.find? fun tag => tag.name == name

/-- The tag of a code. -/
def ofCode? (code : Int) : Option Tag := all.find? fun tag => tag.code == code

/-- Every tag is listed. -/
theorem mem_all (tag : Tag) : tag ∈ all := by cases tag <;> decide

/-- Every tag is the tag of its name. -/
theorem ofName?_name (tag : Tag) : ofName? tag.name = some tag := by
  have each : ∀ tag ∈ all, ofName? tag.name = some tag := by decide +kernel
  exact each tag (mem_all tag)

/-! ### Complements -/

/-- The pairs of tags of which exactly one holds, the positive one first. -/
def complements : List (Tag × Tag) := [
  (timeDay, timeNight), (inEvilBiome, notInEvilBiome), (inHallow, notInHallowBiome),
  (inGraveyard, notInGraveyard), (inUnderworldHeight, notInUnderworld),
  (inExpertMode, inClassicMode), (hardmode, preHardmode), (crimsonWorld, corruptWorld),
  (drunkWorld, notDrunkWorld), (remixWorld, notRemixWorld),
  (notTheBeesWorld, notNotTheBeesWorld), (forTheWorthyWorld, notForTheWorthyWorld),
  (tenthAnniversaryWorld, notTenthAnniversaryWorld), (dontStarveWorld, notDontStarveWorld),
  (noTrapsWorld, notNoTrapsWorld), (zenithWorld, notZenithWorld), (bloodMoon, notBloodMoon),
  (eclipse, notEclipse), (eclipseOrBloodMoon, notEclipseAndNotBloodMoon),
  (downedKingSlime, notDownedKingSlime), (downedEyeOfCthulhu, notDownedEyeOfCthulhu),
  (downedEowOrBoc, notDownedEowOrBoc), (downedEaterOfWorlds, notDownedEaterOfWorlds),
  (downedBrainOfCthulhu, notDownedBrainOfCthulhu), (downedQueenBee, notDownedQueenBee),
  (downedDeerclops, notDownedDeerclops), (downedSkeletron, notDownedSkeletron),
  (downedQueenSlime, notDownedQueenSlime), (downedEarlygameBoss, notDownedEarlygameBoss),
  (downedMechBossAny, notDownedMechBossAny), (downedTwins, notDownedTwins),
  (downedDestroyer, notDownedDestroyer), (downedSkeletronPrime, notDownedSkeletronPrime),
  (downedMechBossAll, notDownedMechBossAll), (downedPlantera, notDownedPlantera),
  (downedEmpressOfLight, notDownedEmpressOfLight), (downedDukeFishron, notDownedDukeFishron),
  (downedGolem, notDownedGolem), (downedMourningWood, notDownedMourningWood),
  (downedPumpking, notDownedPumpking), (downedEverscream, notDownedEverscream),
  (downedSantaNK1, notDownedSantaNK1), (downedIceQueen, notDownedIceQueen),
  (downedCultist, notDownedCultist), (downedMoonLord, notDownedMoonLord),
  (downedClown, notDownedClown), (downedGoblinArmy, notDownedGoblinArmy),
  (downedPirates, notDownedPirates), (downedMartians, notDownedMartians),
  (downedFrostLegion, notDownedFrostLegion), (downedSolarPillar, notDownedSolarPillar),
  (downedVortexPillar, notDownedVortexPillar), (downedNebulaPillar, notDownedNebulaPillar),
  (downedStardustPillar, notDownedStardustPillar),
  (downedOldOnesArmyAny, notDownedOldOnesArmyAny), (downedOldOnesArmyT1, notDownedOldOnesArmyT1),
  (downedOldOnesArmyT2, notDownedOldOnesArmyT2), (downedOldOnesArmyT3, notDownedOldOnesArmyT3),
  (moonPhasesHalf0, moonPhasesHalf1), (moonPhasesEven, moonPhasesOdd),
  (moonPhasesEvenQuarters, moonPhasesOddQuarters), (worldGenSilver, worldGenTungsten),
  (nightDayFullMoon, daytimeNotFullMoon), (periodically1, periodically2)]

/-- The tag that the table pairs with this one, if there is one. -/
def partner? (tag : Tag) : Option Tag :=
  complements.findSome? fun pair =>
    if pair.1 = tag then some pair.2 else if pair.2 = tag then some pair.1 else none

/-- The tag that holds exactly when this one does not, if there is one. The table says which one it
is, and the codes must agree with the table. -/
def complement? (tag : Tag) : Option Tag :=
  tag.partner?.filter fun partner => partner.code = ~~~tag.code

/-- The codes of a pair are each other's bitwise complement. -/
theorem code_complements : ∀ pair ∈ complements, pair.2.code = ~~~pair.1.code := by decide

theorem complement_complement (code : Int) : ~~~(~~~code) = code := by cases code <;> rfl

/-- The code of a partner is the bitwise complement of the tag's code, on either side of a pair. -/
theorem code_of_partner? {tag partner : Tag} (paired : tag.partner? = some partner) :
    partner.code = ~~~tag.code := by
  obtain ⟨pair, member, same⟩ := List.exists_of_findSome?_eq_some paired
  have codes := code_complements pair member
  split at same
  · next first =>
    rw [← Option.some.inj same, ← first, codes]
  · split at same
    · next second =>
      rw [← Option.some.inj same, ← second, codes, complement_complement]
    · cases same

/-- The codes agree with the table: every partner is a complement. -/
theorem complement?_eq_partner? (tag : Tag) : tag.complement? = tag.partner? := by
  unfold complement?
  cases paired : tag.partner? with
  | none => rfl
  | some partner => exact if_pos (decide_eq_true (code_of_partner? paired))

end Tag

end Storefront.Guard
